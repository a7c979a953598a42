import InspectionForms.Answers.Lemmas
import InspectionForms.Main
import InspectionForms.Proofs.JsonTree
import InspectionForms.Proofs.NumberText
import InspectionForms.Proofs.SortedMapEntries
import InspectionForms.Proofs.TokenText
import InspectionForms.Store.Tampering
import InspectionForms.Proofs.JsonText
import InspectionForms.Proofs.JsonDepth
import InspectionForms.Proofs.ScriptValues
import InspectionForms.Proofs.SnapshotMembers
import InspectionForms.Proofs.StoreReach
import InspectionForms.Proofs.SubmittedRows
import InspectionForms.Proofs.SessionRuns
import InspectionForms.Proofs.LastWrites
import InspectionForms.Proofs.SnapshotContent
import InspectionForms.Proofs.RenderLocality
import InspectionForms.Proofs.FieldScopes
import InspectionForms.Proofs.RunWrites
import InspectionForms.Proofs.TablePositions
import InspectionForms.Proofs.SubmissionContent
import InspectionForms.Proofs.StatusChanges
import InspectionForms.Proofs.ListingOrder
import InspectionForms.Proofs.Paging
import InspectionForms.Proofs.SharedStore
import InspectionForms.Proofs.TreeNodes
import InspectionForms.Proofs.StoreOpening
import InspectionForms.Proofs.Finishing
import InspectionForms.Proofs.EditReplay
import InspectionForms.Proofs.RowChanges
import InspectionForms.Proofs.StatusListing
import InspectionForms.Proofs.TokenLayout
import InspectionForms.Proofs.EditLayouts
import InspectionForms.Proofs.LayoutReading
import InspectionForms.Proofs.JsonSyntax
import InspectionForms.Proofs.ListTexts
import InspectionForms.Proofs.ScriptElements
import InspectionForms.Proofs.ScriptFaults
import InspectionForms.Proofs.PrintedListing
import InspectionForms.Proofs.SchemaDocument
import InspectionForms.Proofs.SchemaPlaces
import InspectionForms.Proofs.SchemaChanges
import InspectionForms.Proofs.RenderOutline
import InspectionForms.Proofs.CellHistory
import InspectionForms.Proofs.ArgumentGroups
import InspectionForms.Proofs.CalendarDays
import InspectionForms.Proofs.TimestampText
import InspectionForms.Proofs.ChoiceControls
import InspectionForms.Proofs.ChoiceGroups
import InspectionForms.Proofs.StoredAnswers
import InspectionForms.Proofs.CheckoutSearch
import InspectionForms.Proofs.ForeignChanges
import InspectionForms.Proofs.JournalPlayback
import InspectionForms.Proofs.MomentDays
import InspectionForms.Proofs.QuietInsertion
