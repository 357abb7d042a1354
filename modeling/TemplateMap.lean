import TemplateMap.Main
import TemplateMap.Proofs.Blob.Cut
import TemplateMap.Proofs.Blob.Tokens
import TemplateMap.Proofs.Chain.FirstTable
import TemplateMap.Proofs.Chain.Guarantee
import TemplateMap.Proofs.Dump.Cut
import TemplateMap.Proofs.Execution
import TemplateMap.Proofs.Extraction.Annotations
import TemplateMap.Proofs.Extraction.Comments
import TemplateMap.Proofs.Extraction.SameBlob
import TemplateMap.Proofs.Extraction.Unicode
import TemplateMap.Proofs.LineMap.Gaps
import TemplateMap.Proofs.Method
import TemplateMap.Proofs.Method.Matching
import TemplateMap.Proofs.Resolver.Transparency
import TemplateMap.Proofs.Stratum.Edits
import TemplateMap.Proofs.Stratum.Layers
import TemplateMap.Proofs.Stratum.Printed
import TemplateMap.Proofs.Table.Ascending
import TemplateMap.Proofs.Table.Inverse
import TemplateMap.Proofs.Table.Neighbours
import TemplateMap.Proofs.Table.Reordering
import TemplateMap.Proofs.Table.Rules
import TemplateMap.Proofs.Table.SingleLines
import TemplateMap.Proofs.Template
import TemplateMap.Proofs.Tool.Race
import TemplateMap.Proofs.Word.Resolver
