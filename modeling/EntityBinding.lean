import EntityBinding.Model.Serialization
import EntityBinding.Source.Discover
import EntityBinding.Proofs.Outcome
import EntityBinding.Proofs.Flags
import EntityBinding.Proofs.Resolution
import EntityBinding.Proofs.AcceptedTypes
import EntityBinding.Proofs.Checks
import EntityBinding.Proofs.Build
import EntityBinding.Proofs.Identity
import EntityBinding.Proofs.Load
import EntityBinding.Proofs.Items
import EntityBinding.Proofs.WellFormed
import EntityBinding.Proofs.Validity
import EntityBinding.Proofs.FieldList
import EntityBinding.Proofs.Annotations
import EntityBinding.Proofs.TagLanguage
import EntityBinding.Proofs.TextForms
import EntityBinding.Proofs.TagRoundTrip
import EntityBinding.Proofs.StoredTypes
import EntityBinding.Proofs.TypeAgreement
import EntityBinding.Proofs.LetterCase
import EntityBinding.Proofs.StorageNames
import EntityBinding.Proofs.Events
import EntityBinding.Proofs.IdentitySelection
import EntityBinding.Proofs.IndexRules
import EntityBinding.Proofs.Respelling
import EntityBinding.Proofs.TagEdits
import EntityBinding.Proofs.UnreadEntries
import EntityBinding.Proofs.MarkedIdentity
import EntityBinding.Proofs.TagOrder
import EntityBinding.Proofs.EscapedQuotes
import EntityBinding.Proofs.TagLiterals
import EntityBinding.Proofs.EntityEdits
import EntityBinding.Proofs.TableOffsets
import EntityBinding.Proofs.SeparatedItems
import EntityBinding.Proofs.UniqueReading
import EntityBinding.Proofs.BuildLog
import EntityBinding.Proofs.EventLog
import EntityBinding.Proofs.FieldTags
import EntityBinding.Proofs.Serialization
