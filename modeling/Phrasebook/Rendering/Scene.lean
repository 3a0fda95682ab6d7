import Phrasebook.Format.Date
import Phrasebook.Format.List
import Phrasebook.Format.Number
import Phrasebook.Format.Relative
import Phrasebook.Rendering.Outline
import Phrasebook.Message.Basic
import Phrasebook.Template.Placeholder

/-!
# Rendering messages

A message is rendered for the values of its variables in a locale. A value that is missing, or that
cannot be read as what the message needs, leaves a hole with the name that the author wrote. A value
that the locale cannot write is shown as plain text.
-/

set_option autoImplicit false

namespace Phrasebook

open Template

/-- What a message is rendered with. -/
structure Scene where
  values : Values
  locale : String
  /-- The present. -/
  clock : Calendar.Moment
  /-- The arguments beyond the message format, under their placeholders. -/
  asides : Asides := []
  /-- The formatters of the program. -/
  formatter? : String → Option Formatter := fun _ ↦ none
  /-- The data of the locales. -/
  book : LocaleBook := .tables

namespace Scene

/-- What is shown for the value of a variable. -/
def withValue (scene : Scene) (name : String) (f : Value → Outline) : Outline :=
  match scene.values with
  | .named value => f (value name)
  | .nameless => [.fault (.misuse .namelessValues)]

/-- A value as plain text, unless it has a whole number in it that is too long to be written. -/
def shown (v : Value) : Segment :=
  if v.isOverlong then .fault (.number .overlong) else .text .value v.plainText

/-- A text in the way of the locale, or the plain text where the locale has no way. -/
def written (v : Value) : Except FormatFault String → Segment
  | .ok s => .text .output s
  | .error f => if f.isRecoverable then shown v else .fault (.format f)

/-- What a reading of a value is shown as, or a hole if the value cannot be read so. -/
def orHole {α : Type} (name : String) (reading : Option α) (f : α → Outline) : Outline :=
  match reading with
  | some a => f a
  | none => [.hole name]

/-- A value as plain text, or a hole if it is absent. -/
def plain (name : String) (v : Value) : Outline :=
  if v.isAbsent then [.hole name] else [shown v]

/-- A value through a formatter of the program. If the formatter fails, that is reported and the
value counts as missing. -/
def custom (scene : Scene) (name : String) (v : Value) (formatter : String)
    (style : Option String) : Outline :=
  if v.isAbsent then [.hole name]
  else
    match scene.formatter? formatter with
    | none => [.hole name]
    | some f =>
      match f.format v scene.locale style with
      | .ok s => [.text .output s]
      | .error e => [.notice (.formatterFailed formatter name e.text), .hole name]

/-- An argument beyond the message format. -/
def extension (scene : Scene) (s : ExtensionArgument) : Outline := scene.withValue s.name fun v ↦
  let number := orHole s.name v.readNumber?
  match s.extension with
  | .custom formatter style => scene.custom s.name v formatter style
  | .currency code => number fun n ↦
    let code := if code = "" then defaultCurrency else code
    [written (.number n) (Format.currency (.number n) (some code) scene.locale scene.book)]
  | .compact display => number fun n ↦
    [written (.number n) (Format.compact (.number n) scene.locale display scene.book)]
  | .relativeTime style => orHole s.name v.readMoment? fun m ↦
    let style := if style = "" then "long" else style
    [written (.moment m) (Format.relative m scene.locale style scene.clock scene.book)]
  | .list kind length =>
    match v with
    | .list items => [written v (Format.list items scene.locale kind length scene.book)]
    | _ => [.hole s.name]
  | .unknown kind => [.fault (.unknownExtension kind)]

/-- A plain argument: an argument beyond the message format in disguise, or the value as plain text.
A name in the form of a placeholder that stands for nothing is left as it was written. -/
def argument (scene : Scene) (name : String) : Outline :=
  match scene.asides.lookup name with
  | some s => scene.extension s
  | none => scene.withValue name fun v ↦
    if v.isAbsent && hasPlaceholderForm name then [.text .template (inBraces name)]
    else plain name v

/-- A number in a style or with options. -/
def number (scene : Scene) (name : String) (style : Option String)
    (options : Option NumberOptions) : Outline :=
  scene.withValue name fun v ↦ orHole name v.readNumber? fun n ↦
    [written (.number n) (Format.number (.number n) scene.locale style options scene.book)]

/-- A date or time, which `format` writes. -/
def moment (scene : Scene) (name : String)
    (format : Value → String → LocaleBook → Except FormatFault String) : Outline :=
  scene.withValue name fun v ↦ orHole name v.readMoment? fun m ↦
    [written (.moment m) (format (.moment m) scene.locale scene.book)]

end Scene

namespace Plural

/-- Whether a selector such as `=1` names exactly this number. -/
def isExact (selector : String) (n : Number) : Bool :=
  match selector.toList with
  | '=' :: s =>
    match Binary64.ofText? s with
    | some x => n.equalsBinary x
    | none => false
  | _ => false

/-- The branch for a number: the first one that names it exactly, or else the one of the category of
the number less the offset, or else the one for other numbers. -/
def branch? {α : Type} (options : List (String × α)) (n lowered : Number) (locale : String)
    (kind : PluralKind) (book : LocaleBook) : Except Number.Fault (Option α) :=
  match options.find? fun o ↦ isExact o.1 n with
  | some o => .ok (some o.2)
  | none =>
    (Plural.ofNumber lowered locale kind book).map fun category ↦
      (options.lookup category.word).or (options.lookup "other")

end Plural

/-- The branch for a value: the one named by its plain text, or else the one for other values. -/
def selectBranch? {α : Type} (options : List (String × α)) (v : Value) : Option α :=
  (if v.isAbsent then none else options.lookup v.plainText).or (options.lookup "other")

namespace Scene

/-- The branch that is chosen for a value by its plain text. -/
def selected (name : String) (branches : List (String × Outline)) (v : Value) : Outline :=
  if v.isOverlong then [.fault (.number .overlong)]
  else (selectBranch? branches v).getD [.hole name]

mutual

/-- The outline of an element; `pound` is the number around it. -/
def element (scene : Scene) (pound : Option Value) : Element → Outline
  | .literal s => [.text .template s]
  | .argument name => scene.argument name
  | .pound => [(pound.map shown).getD (.text .template "#")]
  | .plural name kind offset options => scene.withValue name fun v ↦
    orHole name v.number? fun n ↦
      match n.lower offset with
      | .error f => [.fault (.number f)]
      | .ok lowered =>
        let outlines := scene.options (some (.number lowered)) options
        match Plural.branch? outlines n lowered scene.locale kind scene.book with
        | .error f => [.fault (.number f)]
        | .ok branch => branch.getD [.hole name]
  | .select name options => scene.withValue name fun v ↦
    selected name (scene.options none options) v
  | .number name style options => scene.number name style options
  | .date name style skeleton =>
    scene.moment name fun v locale book ↦ Format.date v locale style skeleton book
  | .time name style skeleton =>
    scene.moment name fun v locale book ↦ Format.time v locale style skeleton book
  | .foreign kind => [.fault (.unknownElement kind)]

/-- The outline of a message. -/
def message (scene : Scene) (pound : Option Value) : List Element → Outline
  | [] => []
  | e :: es => scene.element pound e ++ scene.message pound es

/-- The outlines of the branches of an element. -/
def options (scene : Scene) (pound : Option Value) :
    List (String × List Element) → List (String × Outline)
  | [] => []
  | (selector, branch) :: os => (selector, scene.message pound branch) :: scene.options pound os

end

/-- The outline of a template whose arguments are plain variables. -/
def simple (scene : Scene) (s : List Char) : Outline :=
  (plainVariable.pieces s).flatMap fun
    | .char c => [.text .template (String.singleton c)]
    | .found name => scene.withValue name (plain name)

end Scene

end Phrasebook
