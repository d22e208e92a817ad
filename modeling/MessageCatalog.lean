import MessageCatalog.Main
import MessageCatalog.Output.Registry
import MessageCatalog.Proofs.CommandLine.Generation
import MessageCatalog.Proofs.Document.Grammar
import MessageCatalog.Proofs.Document.Writing
import MessageCatalog.Proofs.Output.ArgumentBinding
import MessageCatalog.Proofs.Document.MissingValues
import MessageCatalog.Proofs.Document.ReportOrder
import MessageCatalog.Proofs.Document.WellFormed
import MessageCatalog.Proofs.Catalog.Json
import MessageCatalog.Proofs.Output.Visibility
import MessageCatalog.Proofs.Document.Settings
import MessageCatalog.Proofs.Document.Recovery
import MessageCatalog.Proofs.CommandLine.Containment
import MessageCatalog.Proofs.CommandLine.Rejection
import MessageCatalog.Proofs.CommandLine.Validation
import MessageCatalog.Proofs.FileTree.Below
import MessageCatalog.Proofs.Language.Subtag
import MessageCatalog.Proofs.Document.Encoding
import MessageCatalog.Proofs.Document.Exchange
import MessageCatalog.Proofs.Document.Insertion
import MessageCatalog.Proofs.Output.Items
import MessageCatalog.Proofs.Preprocessing.Paragraphs
import MessageCatalog.Proofs.Segment.Respelling
import MessageCatalog.Proofs.Preprocessing.TagSpelling
import MessageCatalog.Proofs.Output.ResourceName
import MessageCatalog.Proofs.Xml.Spacing
import MessageCatalog.Proofs.Segment.Cutting
import MessageCatalog.Proofs.Output.SegmentTexts
import MessageCatalog.Proofs.Preprocessing.Renderer
