import Provisioning.Directory.Query
import Provisioning.Schema.Basic
import Provisioning.Text.Quoted

/-!
Why no verdict could be reached.

A verdict can be a rejection; a failure is no verdict at all. It says that a question was not
answered, that roles which have to exist do not, or that definitions or a configuration make no
sense.
-/

namespace Provisioning

/-- What is wrong with a configuration. -/
inductive PolicyFault where
  | emptySystemScope
  | emptyDefaultAccount
  | invalidDefaultRole
  | defaultsNotTogether
  deriving DecidableEq, Repr

def PolicyFault.message : PolicyFault → String
  | emptySystemScope => "System scope cannot be empty"
  | emptyDefaultAccount => "Default account cannot be empty"
  | invalidDefaultRole => "Default role must name a single role"
  | defaultsNotTogether => "Default account and default role must be configured together"

/-- Why no verdict could be reached. -/
inductive Failure where
  /-- Roles that are held or asked for do not exist. This is never a denial. -/
  | unresolvedRoles (principal : Uuid) (roles : List String)
  /-- A question was not answered. -/
  | unanswered (call : Call) (keys : List String) (source : Unavailable)
  /-- The definitions of the tenant make no schema, or a change to it is not allowed. -/
  | invalidSchema (error : SchemaError)
  | configuration (fault : PolicyFault)
  deriving DecidableEq

namespace Failure

/-- Keys with commas between them. -/
def joinKeys (keys : List String) : String := ", ".intercalate keys

def message : Failure → String
  | unresolvedRoles principal roles =>
    "Unresolved roles while evaluating permissions for " ++ principal.toText ++ ": " ++
      Text.quoteList roles
  | unanswered call keys source =>
    "Collaborator lookup '" ++ call.lookup ++ "' failed for [" ++ joinKeys keys ++ "]: " ++
      source.message
  | invalidSchema error => "Invalid attribute schema: " ++ error.message
  | configuration fault => "Invalid configuration: " ++ fault.message

end Failure

end Provisioning
