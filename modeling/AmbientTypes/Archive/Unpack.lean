import AmbientTypes.Archive.Container
import AmbientTypes.Archive.Tar

namespace AmbientTypes.Archive

inductive Fault where
  | empty
  | container (fault : Container.Fault)
  | tar (fault : Tar.Fault)
  deriving DecidableEq, Repr

def Fault.message : Fault → String
  | empty => "extraction failed: response content is empty"
  | container fault => "extraction failed: " ++ fault.message
  | tar fault => "extraction failed: " ++ fault.message

def unpack (bytes : List UInt8) : Except Fault (List ArchiveFile) :=
  if bytes.isEmpty then .error .empty
  else do
    let raw ← (Container.decompress bytes).mapError .container
    (Tar.files raw).mapError .tar

end AmbientTypes.Archive
