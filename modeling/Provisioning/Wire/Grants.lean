import Provisioning.Grant.Reconcile
import Provisioning.Wire.Attributes

/-!
The wire forms of roles, accounts, grants, and changes to grants.
-/

namespace Provisioning

open Json (ofStrings ofMembers ofList)

namespace Role

def reader : Reader Role := fun room d => do
  let r ← Record.reader ["id", "name", "scopes"] room d
  return {
    id := ← r.field? "id" .uuid
    name := ← r.field? "name" .string
    scopes := .ofList (← r.field? "scopes" (.list .string)) }

def toJson (r : Role) : Json := ofMembers [
  ("id", r.id.toJson), ("name", .string r.name), ("scopes", ofStrings r.scopes.toList)]

end Role

namespace Account

def reader : Reader Account := fun room d => do
  let r ← Record.reader ["id", "name"] room d
  return { id := ← r.field? "id" .uuid, name := ← r.field? "name" .string }

def toJson (a : Account) : Json := ofMembers [("id", a.id.toJson), ("name", .string a.name)]

end Account

namespace Entitlement

def reader : Reader Entitlement := fun room d => do
  let r ← Record.reader ["accountId", "roleId"] room d
  return { account := ← r.field? "accountId" .uuid, role := ← r.field? "roleId" .uuid }

def toJson (e : Entitlement) : Json := ofMembers [
  ("accountId", e.account.toJson), ("roleId", e.role.toJson)]

end Entitlement

namespace Grant

def reader : Reader Grant := fun room d => do
  let r ← Record.reader ["userId", "accountId", "roleId"] room d
  return {
    user := ← r.field? "userId" .uuid
    account := ← r.field? "accountId" .uuid
    role := ← r.field? "roleId" .uuid }

def toJson (g : Grant) : Json := ofMembers [
  ("userId", g.user.toJson), ("accountId", g.account.toJson), ("roleId", g.role.toJson)]

end Grant

namespace ChangeOp

def reader : Reader ChangeOp := .named ofName?

def toJson (op : ChangeOp) : Json := .string op.name

end ChangeOp

namespace Change

def reader : Reader Change := fun room d => do
  let r ← Record.reader ["accountRef", "target", "op"] room d
  return {
    account := ← r.field? "accountRef" .string
    target := .ofText (← r.field? "target" .string)
    op := ← r.field? "op" ChangeOp.reader }

def toJson (c : Change) : Json := ofMembers [
  ("accountRef", .string c.account), ("target", .string c.target.toText), ("op", c.op.toJson)]

end Change

namespace RequestedGrant

def reader : Reader RequestedGrant := fun room d => do
  let r ← Record.reader ["accountRef", "role"] room d
  return { account := ← r.field? "accountRef" .string, role := ← r.field? "role" .string }

def toJson (g : RequestedGrant) : Json := ofMembers [
  ("accountRef", .string g.account), ("role", .string g.role)]

end RequestedGrant

namespace ChangeError

def reader : Reader ChangeError := fun room d => do
  let r ← Record.reader ["accountRef", "target", "op", "reason"] room d
  return {
    account := ← r.field? "accountRef" .string
    target := ← r.field? "target" .string
    op := ← r.field? "op" ChangeOp.reader
    fault := ← r.field? "reason" (.named ChangeFault.ofName?) }

def toJson (e : ChangeError) : Json := ofMembers [
  ("accountRef", .string e.account), ("target", .string e.target), ("op", e.op.toJson),
  ("reason", .string e.fault.name)]

end ChangeError

end Provisioning
