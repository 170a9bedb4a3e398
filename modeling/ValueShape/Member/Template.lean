import ValueShape.Conduct.Item
import ValueShape.Member.Format
import ValueShape.Text.Template

/-!
# Filled templates

Values put into the fields of a template.

* `Run.fieldSource` is the value that a field names, with the steps that lead there from an argument.
* `Run.fillTemplate` fills a template, whose styles may be templates too.
* A text that makes up the whole result by itself is the result, and not only one like it.
-/

set_option autoImplicit false

namespace ValueShape

/-- The arguments of a template. -/
structure TemplateArguments where
  /-- Those that are known by their places, if there are such. -/
  placed : Option (List Value)
  /-- The mapping that holds those that are known by name, if there is one. -/
  named : Option Value

/-- What a template has been filled with so far. -/
structure Filling where
  /-- How the fields choose among the arguments. -/
  numbering : Numbering
  /-- The characters. -/
  chars : List Char
  /-- The text that makes them up by itself. -/
  whole : Option Value

/-- A filling with a text at the end.  If it is the last one, it may be all there is. -/
def Filling.add (f : Filling) (isLast : Bool) (text : Value) : Filling :=
  let cs := (text.text?.getD "").toList
  if cs.isEmpty then f
  else { f with
    chars := f.chars ++ cs
    whole := if isLast && f.chars.isEmpty then some text else none }

namespace Run

/-! ## Forms -/

/-- The written form of a value, in ASCII. -/
def asciiForm (v : Value) : Run Value := do
  let form ← write v
  let cs := (form.text?.getD "").toList
  if cs.all (·.toNat < 0x80) then return form else newText (String.ofList (escapeWide cs))

/-- The failure of a fault in a template. -/
def templateFailure (fault : TemplateFault) : Failure := .badValue fault.message

/-- A result, unless there is something wrong with a template. -/
def ofTemplate {α : Type} (result : Except TemplateFault α) : Run α :=
  match result with
  | .ok a => return a
  | .error fault => throw (templateFailure fault)

/-- The form of a value that a letter stands for. -/
def converted (conversion : Option Char) (v : Value) : Run Value :=
  match conversion with
  | none => return v
  | some 's' => plainForm v
  | some 'r' => write v
  | some 'a' => asciiForm v
  | some c => throw (templateFailure (.unknownConversion c))

/-! ## Fields -/

/-- The argument that a field begins with, and how the next fields choose. -/
def fieldArgument (args : TemplateArguments) (numbering : Numbering) (first : List Char) :
    Run (Value × Numbering) := do
  let placed := fun (n : Nat) => do
    match args.placed with
    | none => throw (templateFailure .noPlaces)
    | some vs =>
      match vs[n]? with
      | some v => return v
      | none => throw (.indexOutOfRange ("Replacement index " ++ n.repr ++
          " out of range for positional args tuple"))
  match first, ← ofTemplate (placeOf? first) with
  | [], _ =>
    let (n, numbering) ← if args.placed.isNone then pure (0, numbering)
      else ofTemplate numbering.count
    return (← placed n, numbering)
  | _, some n =>
    let numbering ← if args.placed.isNone then pure numbering else ofTemplate numbering.number
    return (← placed n, numbering)
  | name, none =>
    let key ← newText (String.ofList name)
    match args.named with
    | some m => return (← item m key, numbering)
    | none => throw (.missingKey (some key))

/-- The value that steps lead to, at most `fuel` of them. -/
def followSteps : Nat → Value → List Char → Run Value
  | 0, v, _ => return v
  | fuel + 1, v, cs => do
    if cs.isEmpty then return v
    let (step, rest) ← ofTemplate (FieldStep.read cs)
    let next ← match step with
      | .attribute name => readAttribute v (String.ofList name)
      | .item key =>
        match ← ofTemplate (placeOf? key) with
        | some n => do item v (← newInt n)
        | none => do item v (← newText (String.ofList key))
    followSteps fuel next rest

/-- The value that a field names, and how the next fields choose. -/
def fieldSource (args : TemplateArguments) (numbering : Numbering) (name : List Char) :
    Run (Value × Numbering) := do
  let (first, steps) := splitName name
  let (v, numbering) ← fieldArgument args numbering first
  return (← followSteps (steps.length + 1) v steps, numbering)

/-! ## Templates

The style of a field may be a template itself, and is filled before the value is formed by it.  Such
templates are nested no deeper than the bound. -/

/-- Fills the rest of a template, of which at most `fuel` pieces are left.  `fillStyle` fills a
style; `whole` is the template as a value. -/
def fillPieces (args : TemplateArguments) (fillStyle : Numbering → List Char → Run Filling)
    (whole : Value) : Nat → Filling → List Char → Run Filling
  | 0, f, _ => return f
  | fuel + 1, f, cs => do
    if cs.isEmpty then return f
    let piece ← ofTemplate (TemplatePiece.read cs)
    let isLast := piece.rest.isEmpty
    let isWhole := piece.plain.length == (whole.text?.getD "").length
    let plain := if isWhole then whole else .text (String.ofList piece.plain)
    let f := f.add (isLast && piece.field.isNone && isWhole) plain
    match piece.field with
    | none => fillPieces args fillStyle whole fuel f piece.rest
    | some field =>
      let (v, numbering) ← fieldSource args f.numbering field.name
      let v ← converted field.conversion v
      let style ← if field.style.contains opener then fillStyle numbering field.style
        else pure ⟨numbering, field.style, none⟩
      let text ← formatIn (String.ofList style.chars) v
      fillPieces args fillStyle whole fuel
        ({ f with numbering := style.numbering }.add isLast text) piece.rest

/-- Fills a template, with styles that are templates nested at most `depth` deep. -/
def fillUpTo (args : TemplateArguments) : Nat → Numbering → Value → Run Filling
  | 0, _, _ => throw (templateFailure .tooDeep)
  | depth + 1, numbering, template =>
    let cs := (template.text?.getD "").toList
    let fillStyle := fun (n : Numbering) (style : List Char) =>
      fillUpTo args depth n (.text (String.ofList style))
    fillPieces args fillStyle template (cs.length + 1) ⟨numbering, [], none⟩ cs

/-- The text that a template gives with arguments. -/
def fillTemplate (template : Value) (args : TemplateArguments) : Run Value := do
  let f ← fillUpTo args 2 .undecided template
  match f.whole with
  | some v => return v
  | none => newText (String.ofList f.chars)

end Run

end ValueShape
