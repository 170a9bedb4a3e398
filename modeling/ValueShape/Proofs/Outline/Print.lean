import ValueShape.Proofs.Outline.Limits
import ValueShape.Proofs.Outline.Printer

/-!
# Renderings that are printed directly

`Run.inspect_eq_print` says that rendering a value comes to the same as unfolding it and writing the
outline from the outside in, whatever the value and its parts do when they are asked, as long as all
names that are shown are neat and no set with several members is shown.

The name of a leaf is the text that stands for it in its place.  Inside a tuple with one item and inside
an entry of a mapping this is what the name becomes in a longer text, which can be another text if the
class of the name says so: `Run.inspect_name_differs`.
-/

set_option autoImplicit false

namespace ValueShape

open Run

namespace Run

/-- A rendering as a value, written from the outside in. -/
def printedValue (n : Nat) : Rendering → Run Value
  | .value v => return v
  | .outline .cut => return .keptText (String.ofList Outline.cutText)
  | .outline .circular => return .keptText (String.ofList Outline.circularText)
  | .outline o => ownText (String.ofList (signText ((o.printed n).written 0)))

/-- The rendering of a value, written from the outside in: a line of items may have `n` characters, and
`depth` levels of containers are shown. -/
def printValue (n depth : Nat) (v : Value) : Run Value := do
  printedValue n (← unfold (.upTo n) depth [] v)

variable {c : Conduct} {s : Session}

/-- A tidy outline has the same text both ways. -/
theorem renderingValue_eq_printedValue {r : Rendering} (hr : r.Throughout Outline.IsTidy) (n : Nat) :
    renderingValue (.upTo n) r = printedValue n r := by
  cases r with
  | value v => rfl
  | outline o =>
    have htext : signText ((o.printed n).written 0) = o.layout (.upTo n) := by
      rw [(Outline.writes_layout hr n).written 0, hang_zero]
    cases o with
    | circular | cut => rfl
    | leaf | list | tuple | set | arranged | mapping =>
      exact congrArg (fun cs => ownText (String.ofList cs)) htext.symm

/-- **Rendering is printing from the outside in**, if all names are neat and no set with several members
is shown.  Every line of what is printed then begins as the printer begins it: with two spaces for each
broken container around it. -/
theorem inspect_eq_print {v options : Value} {n depth : Nat}
    (hoptions : s.heap.knownLimits? options = some ⟨.upTo n, depth⟩)
    (hv : ShowsOnly Outline.IsTidy c s (.upTo n) depth v) :
    exec c (inspect v options) s = exec c (printValue n depth v) s ∧
      ∀ o s', exec c (unfold (.upTo n) depth [] v) s = .ok (.outline o) s' →
        .char '\n' ∉ (o.printed n).written 0 := by
  refine ⟨?_, fun o s' ho => ?_⟩
  · rw [exec_inspect hoptions, renderValue, printValue, exec_bind, exec_bind]
    rcases hr : exec c (unfold (.upTo n) depth [] v) s with ⟨r, s₁⟩ | ⟨e, s₁⟩
    · rw [Ending.andThen_ok, Ending.andThen_ok, renderingValue_eq_printedValue (hv r s₁ hr)]
    · rfl
  · exact (Outline.writes_layout (hv _ s' ho) n).lineFeed_notMem 0

end Run

/-! ### A name with two lines -/

/-- A list with a predicate whose name has two lines, inside a tuple inside a list. -/
def namedLists : List Cell :=
  [⟨.kind .list, .list [.named "is_one\nof two", .named "is_any"]⟩,
    ⟨.kind .list, .list [.tuple (.kind .tuple) 5 [.ref 0], .ref 0]⟩]

namespace Run

theorem inspect_eq_print_namedLists :
    exec (Ask.conduct .none 1) (inspect (.ref 1) (.limits 20 8)) (.ofCells namedLists) =
        exec (Ask.conduct .none 1) (printValue 20 8 (.ref 1)) (.ofCells namedLists) ∧
      ∀ o s', exec (Ask.conduct .none 1) (unfold (.upTo 20) 8 [] (.ref 1)) (.ofCells namedLists) =
        .ok (.outline o) s' → .char '\n' ∉ (o.printed 20).written 0 :=
  inspect_eq_print (by decide +kernel) (by decide +kernel)

end Run

/-! ### A name that is another text inside a longer one -/

namespace Run

/-- The name of a predicate is neat, but an entry of a mapping shows another text in place of it. -/
theorem inspect_name_differs :
    let s := Session.quoted
      [⟨.kind .dict, .dict [(⟨.keptText "a", hashText "a"⟩, namedBy (.declared 0))]⟩]
    let shown (v : Value) := (exec (Ask.conduct .none 2) (inspect v .null) s).result?.map
        (·.text?)
    IsNeat ['x'] ∧ shown (namedBy (.declared 0)) = some (some "x") ∧
      shown (.ref 0) = some (some "\x7b'a': 'x'\x7d") ∧
      signText (((Outline.mapping [(.leaf "'a'".toList, .leaf ['x'])]).printed
        defaultThreshold).written 0) = "\x7b'a': x\x7d".toList := by
  decide +kernel

end Run

end ValueShape
