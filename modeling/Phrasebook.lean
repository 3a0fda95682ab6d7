import Phrasebook.Dictionary.Pairs
import Phrasebook.ShortCall
import Phrasebook.TaggedText
import Phrasebook.Proofs.Failures
import Phrasebook.Proofs.Interpolation
import Phrasebook.Proofs.Leaks
import Phrasebook.Proofs.Quoting
import Phrasebook.Proofs.Sessions
import Phrasebook.Proofs.Reloading
import Phrasebook.Proofs.OpenTexts
import Phrasebook.Proofs.VerbatimValues
import Phrasebook.Proofs.MessageParts
import Phrasebook.Proofs.MissingValues
import Phrasebook.Proofs.BareRendering
import Phrasebook.Proofs.CacheRuns
import Phrasebook.Proofs.GivenPhrases
import Phrasebook.Proofs.ReservedWords
import Phrasebook.Proofs.Batches
import Phrasebook.Proofs.PlaceholderOrder
import Phrasebook.Proofs.ShortPlurals
import Phrasebook.Proofs.JoinedTemplates
import Phrasebook.Proofs.ExactSelectors
import Phrasebook.Proofs.EqualCounts
import Phrasebook.Proofs.CompactNumbers
import Phrasebook.Proofs.LocaleChains
import Phrasebook.Proofs.TaggedParts
import Phrasebook.Proofs.RelativeUnits
import Phrasebook.Proofs.EqualAmounts
