import ResultMapping.Proofs.Descriptor.Columns
import ResultMapping.Proofs.Entry.Soundness
import ResultMapping.Proofs.Interception.Assembly
import ResultMapping.Proofs.Interception.Failure
import ResultMapping.Proofs.Json.RoundTrip
import ResultMapping.Proofs.Registry.CasesFirst
import ResultMapping.Proofs.Registry.Enumeration
import ResultMapping.Proofs.Registry.Independence
import ResultMapping.Proofs.Registry.Log
import ResultMapping.Sample.Survey
import ResultMapping.Proofs.Text.CaseTable
import ResultMapping.Proofs.Text.UpperCase
import ResultMapping.Proofs.Descriptor.LetterCase
import ResultMapping.Proofs.Descriptor.Joins
import ResultMapping.Proofs.Entry.Forms
import ResultMapping.Proofs.Text.Numeral
import ResultMapping.Proofs.Interception.Properties
import ResultMapping.Proofs.Interception.Configuration
import ResultMapping.Proofs.Interception.Manifest
import ResultMapping.Proofs.Settings.AutoMapping
import ResultMapping.Proofs.Settings.Environment
