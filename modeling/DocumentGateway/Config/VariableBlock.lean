import DocumentGateway.Config.EnvironmentFile
import DocumentGateway.Text.Utf8

/-!
# Blocks of variables

A running program is given its variables as one block of bytes: every entry is a name,
an equals sign and a value, and a zero byte ends it. The name ends at the first equals
sign, so a value may hold further ones. Entries that are no text are passed over.
-/
namespace DocumentGateway.Config

/-- The variable of an entry with an equals sign. -/
def variableOfEntry? (entry : List Char) : Option (String × String) :=
  (Text.cutAt? ['='] entry).map fun (name, value) => (String.ofList name, String.ofList value)

/-- The variables of a block. -/
def Variables.ofBlock (block : Bytes) : Variables :=
  (Text.pieces '\x00' (Utf8.decode block).toList).filterMap variableOfEntry?

end DocumentGateway.Config
