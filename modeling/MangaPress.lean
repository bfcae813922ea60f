import MangaPress.Main
import MangaPress.Page.OfJson
import MangaPress.Service.Router
import MangaPress.Proofs.CommandLine.Fallback
import MangaPress.Proofs.Credential.Clients
import MangaPress.Proofs.Credential.OtherEntries
import MangaPress.Proofs.Generation.Answer
import MangaPress.Proofs.Generation.Coverage
import MangaPress.Proofs.Generation.Names
import MangaPress.Proofs.Generation.RequestBody
import MangaPress.Proofs.Generation.Spelling
import MangaPress.Proofs.Generation.Target
import MangaPress.Proofs.Output.Bytes
import MangaPress.Proofs.Output.DayFolder
import MangaPress.Proofs.Output.NextFree
import MangaPress.Proofs.Output.Numbering
import MangaPress.Proofs.Output.Runs
import MangaPress.Proofs.Output.Savers
import MangaPress.Proofs.Page.Grammar
import MangaPress.Proofs.Prompt.Absence
import MangaPress.Proofs.Prompt.Lines
import MangaPress.Proofs.Prompt.Number
import MangaPress.Proofs.Reference.Key
import MangaPress.Proofs.Reference.Loading
import MangaPress.Proofs.Service.Frame
import MangaPress.Proofs.Surfaces
import MangaPress.Proofs.Template.Segmentation
