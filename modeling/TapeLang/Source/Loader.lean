import TapeLang.Failure
import TapeLang.Source.Load

/-! Loaders: a text, its name, and a cursor that stays where the last reading left it. -/

set_option autoImplicit false

namespace TapeLang

structure Loader where
  text : String
  filename : String := "<string>"
  cursor : Cursor := {}

namespace Loader

/-- Loads the whole text from its start, wherever the cursor is. -/
def load (loader : Loader) : Except ParseError Program × Loader :=
  match scanText loader.text loader.filename with
  | .ok (program, cursor) => (.ok program, { loader with cursor })
  | .error stopped => (.error stopped.error, { loader with cursor := stopped.cursor })

def advance (loader : Loader) : Except Failure Loader :=
  match loader.text.toList[loader.cursor.index]? with
  | some c => .ok { loader with cursor := loader.cursor.pass c }
  | none => .error .textIndex

/-- What can be asked of a loader; programs are numbered in the order in which they were loaded. -/
inductive Request where
  | load
  | text (text : String)
  | filename (filename : String)
  | advance
  | equal (a b : Nat)
  | locations (a : Nat)

inductive Answer where
  | program (program : Program)
  | done
  | equal (answer : Bool)
  | locations (locations : Array SourceLocation)
  | notLoaded (error : ParseError)
  | failed (failure : Failure)
  | noProgram

structure Desk where
  loader : Loader
  loaded : Array Program := #[]

def Desk.handle (desk : Desk) : Request → Answer × Desk
  | .load =>
    match desk.loader.load with
    | (.ok program, loader) => (.program program, ⟨loader, desk.loaded.push program⟩)
    | (.error error, loader) => (.notLoaded error, { desk with loader })
  | .text text => (.done, { desk with loader := { desk.loader with text } })
  | .filename filename => (.done, { desk with loader := { desk.loader with filename } })
  | .advance =>
    match desk.loader.advance with
    | .ok loader => (.done, { desk with loader })
    | .error failure => (.failed failure, desk)
  | .equal a b =>
    match desk.loaded[a]?, desk.loaded[b]? with
    | some p, some q => (.equal (p == q), desk)
    | _, _ => (.noProgram, desk)
  | .locations a =>
    match desk.loaded[a]? with
    | some p => (.locations p.locations, desk)
    | none => (.noProgram, desk)

end Loader

end TapeLang
