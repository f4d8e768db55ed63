import TagOrganizer.Main
import TagOrganizer.Proofs.Collection.Exactness
import TagOrganizer.Proofs.Loading
import TagOrganizer.Proofs.Organizer
import TagOrganizer.Proofs.Organizer.Trial
import TagOrganizer.Proofs.Pattern
import TagOrganizer.Proofs.Placement.Invariance
import TagOrganizer.Proofs.Pruning.Exactness
import TagOrganizer.Proofs.Renaming.Chosen
import TagOrganizer.Proofs.Renaming.Failure
import TagOrganizer.Proofs.Renaming.Idempotence
import TagOrganizer.Proofs.Renaming.Numbering
import TagOrganizer.Proofs.Renaming.Origin
import TagOrganizer.Proofs.Renaming.Separation
import TagOrganizer.Proofs.Renaming.Uniqueness
import TagOrganizer.Proofs.Rulebook.Priority
import TagOrganizer.Proofs.Selection.Agreement
import TagOrganizer.Proofs.Selection.Grammar
import TagOrganizer.Proofs.Settings
import TagOrganizer.Proofs.TagGroup.Merging
import TagOrganizer.Proofs.Template.Meaning
import TagOrganizer.Proofs.Template.Normal
import TagOrganizer.Proofs.Template.Spans
import TagOrganizer.Proofs.Transfer.Forecast
import TagOrganizer.Proofs.Transfer.Steps
import TagOrganizer.Proofs.Transfer.Survival
import TagOrganizer.Proofs.Version.Gate
