import TapeLang.Hook.Reading
import TapeLang.Hook.Services

/-! Extension modules: what a module declares, and what its registration does. -/

set_option autoImplicit false

namespace TapeLang

inductive Call where
  | describe (metadata : Metadata)
  | hook (hook : Hook)
  | raise (failure : Failure)

structure ExtensionModule where
  /-- The version of the interface that the module asks for, if it says so. -/
  api : Option Value := none
  name : Option Value := none
  /-- Whether the module can be registered. -/
  registers : Bool := true
  /-- Another module of the same directory that has to be loaded as well. -/
  sibling : Option String := none
  calls : List Call := []

def Call.perform (extension : String) (services : Services) : Call → Except Failure Services
  | .describe metadata => .ok (services.describe metadata)
  | .hook declared => services.register extension declared
  | .raise failure => .error failure

namespace ExtensionModule

def register (declared : ExtensionModule) (extension : String) (services : Services) :
    Except Failure Services :=
  declared.calls.foldlM (fun services call => call.perform extension services) services

end ExtensionModule

/-! Reading declarations of modules. -/

def Metadata.ofValue? (v : Value) : Option Metadata := do
  let name ← v.memberText? "name"
  pure
    { name
      version := (v.memberText? "version").getD "0.0.0"
      requiresApi := (v.memberInt? "requires_api").getD apiVersion }

def Call.ofValue? (v : Value) : Option Call :=
  match v.memberText? "call" with
  | some "metadata" => ((v.member? "args").bind Metadata.ofValue?).map .describe
  | some "hook" => ((v.member? "hook").bind Hook.ofValue?).map .hook
  | some "raise" => (Failure.ofValue? v).map .raise
  | _ => none

def ExtensionModule.ofValue? (v : Value) : Option (Except Failure ExtensionModule) := do
  let calls ← match v.member? "calls" with
    | some (.list items) => items.mapM Call.ofValue?
    | _ => some []
  match (v.member? "import_raise").bind Failure.ofValue? with
  | some failure => pure (.error failure)
  | none => pure (.ok
      { api := v.member? "api"
        name := v.member? "name"
        registers := (v.memberText? "register").getD "ok" = "ok"
        sibling := v.memberText? "import_sibling"
        calls })

end TapeLang
