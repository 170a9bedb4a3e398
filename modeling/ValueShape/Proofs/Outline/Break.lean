import ValueShape.Proofs.Outline.Limits
import ValueShape.Proofs.Outline.Width

/-!
# When a rendering is broken

A rendering is compared with the one under which every line is short enough.

* `Run.exec_unfold_of_isCompact` says that unfolding a value under the one limit comes to the same as under
  the other one, as long as no container is too long for a line.
* `Run.inspect_breaks_iff` says that a rendering has several lines if and only if a container that is shown
  is too long for a line, that otherwise it is the same under every greater limit, and when it comes to
  an end.

The members of a set are asked about their order if one of them is a text that compares in its own way.
Then they are shown as texts, and the containers inside them are no longer visible; but the set itself is
longer than what is inside it, so it is too long if one of these is.
-/

set_option autoImplicit false

namespace ValueShape

open Run

/-- A value is a text with several lines. -/
def Value.isBroken (w : Value) : Bool := w.text?.any fun text => text.toList.contains '\n'

namespace Rendering

/-- What a rendering shows. -/
def Shows : Rendering → Outline → Prop
  | value _, _ => False
  | outline o, q => o.Shows q

/-- No name that a rendering shows has a line feed. -/
def IsFlat : Rendering → Prop
  | value w => w.isBroken = false
  | outline o => o.Throughout Outline.IsFlat

instance : DecidablePred IsFlat
  | value w => inferInstanceAs (Decidable (w.isBroken = false))
  | outline o => inferInstanceAs (Decidable (o.Throughout Outline.IsFlat))

theorem exists_isWide_iff {r : Rendering} (hflat : r.IsFlat) (n : Nat) :
    (∃ q, r.Shows q ∧ q.IsWide n) ↔ ¬r.Throughout (Outline.IsCompact n) := by
  cases r with
  | value w => exact ⟨fun ⟨_, h, _⟩ => h.elim, fun h => absurd trivial h⟩
  | outline o => exact Outline.exists_isWide_iff hflat

end Rendering

/-- A set that is shown has its members in the order of their texts, unless it has one member at most. -/
def Outline.IsOrderly : Outline → Prop
  | arranged items => items.length ≤ 1
  | _ => True

instance : DecidablePred Outline.IsOrderly
  | .arranged items => inferInstanceAs (Decidable (items.length ≤ 1))
  | .leaf _ | .circular | .cut | .list _ | .tuple _ | .set _ _ | .mapping _ =>
    inferInstanceAs (Decidable True)

namespace Run

variable {c : Conduct} {s s' : Session} {n : Nat}

/-! ## Unfolding

Before anything is laid out, the line limit matters in one place only.  Members of sets that are
texts of classes with a comparison of their own are put into order by asking them. -/

/-- Members of sets are asked about the same texts under two limits, if none of these is broken. -/
theorem closesSetsAlike_of_isCompact (line : LineLimit) {line' : LineLimit}
    (hline' : ∀ k ≤ n, line'.allows k = true) :
    ClosesSetsAlike c (Outline.IsCompact n) line line' := by
  refine closesSetsAlike_of_arranged fun rs os w _ hperm hos r hr => ?_
  cases r with
  | value w => exact ⟨trivial, rfl⟩
  | outline o =>
    have hmem : .leaf (o.layout line) ∈ os := by
      rw [← arrangedLeaf_outline]
      exact hperm.mem_iff.mpr (List.mem_map_of_mem hr)
    obtain ⟨⟨-, hnarrow⟩, hparts⟩ := Outline.throughout_iff.mp hos
    have hflat : '\n' ∉ o.layout line := (Outline.throughout_iff.mp (hparts _ hmem)).1.1
    have hlength : (o.layout line).length ≤ n := by
      have hset : (Outline.arranged os).brackets? = some ('\x7b', '\x7d') := rfl
      have hitem := Outline.length_layout_le_line hset hmem .always
      exact Nat.le_trans hitem (Nat.not_lt.mp fun hlt => hnarrow ⟨rfl, hlt⟩)
    have hcompact := Outline.throughout_isCompact hflat (.inr hlength)
    have hflat' := Outline.lineFeed_notMem_of_isCompact hline' hcompact
    refine ⟨hcompact, congrArg (fun text => Value.text (String.ofList text)) ?_⟩
    rw [Outline.layout_eq_always hflat, Outline.layout_eq_always hflat']

/-- **Unfolding does not depend on the line limit** as long as nothing is too long for a line. -/
theorem exec_unfold_of_isCompact {line line' : LineLimit} (hline' : ∀ k ≤ n, line'.allows k = true)
    {depth : Nat} {path : List Value} {v : Value} {r : Rendering}
    (h : exec c (unfold line depth path v) s = .ok r s')
    (hr : r.Throughout (Outline.IsCompact n)) :
    exec c (unfold line' depth path v) s = .ok r s' :=
  exec_unfold_of_throughout (closesSetsAlike_of_isCompact line hline') h hr

/-- Unfolding does not depend on the line limit as long as members of sets are in the order of their
texts. -/
theorem exec_unfold_of_isOrderly {line : LineLimit} {depth : Nat} {path : List Value} {v : Value}
    {r : Rendering} (h : exec c (unfold line depth path v) s = .ok r s')
    (hr : r.Throughout Outline.IsOrderly) (line' : LineLimit) :
    exec c (unfold line' depth path v) s = .ok r s' :=
  exec_unfold_of_throughout (closesSetsAlike_of_length_le (fun _ => id) line line') h hr

/-! ## Texts -/

theorem exists_renderingValue (c : Conduct) (line : LineLimit) (r : Rendering) (s : Session) :
    ∃ w s', exec c (renderingValue line r) s = .ok w s' := by
  cases r with
  | value w => exact ⟨w, s, rfl⟩
  | outline o => cases o <;> exact ⟨_, _, rfl⟩

theorem isBroken_renderingValue {line : LineLimit} {o : Outline} {w : Value}
    (h : exec c (renderingValue line (.outline o)) s = .ok w s') :
    w.isBroken = (o.layout line).contains '\n' := by
  have htext : w.text? = some (String.ofList (o.layout line)) := by
    cases o <;>
    · cases h
      rfl
  rw [Value.isBroken, htext, Option.any_some, String.toList_ofList]

/-- A compact rendering has one line. -/
theorem isBroken_of_isCompact {line : LineLimit} (hline : ∀ k ≤ n, line.allows k = true)
    {r : Rendering} (hflat : r.IsFlat) (hr : r.Throughout (Outline.IsCompact n)) {w : Value}
    (h : exec c (renderingValue line r) s = .ok w s') : w.isBroken = false := by
  cases r with
  | value v =>
    cases h
    exact hflat
  | outline o =>
    rw [isBroken_renderingValue h, Bool.eq_false_iff, ne_eq, List.contains_iff_mem]
    exact Outline.lineFeed_notMem_of_isCompact hline hr

/-- A rendering with one line is compact. -/
theorem isCompact_of_isBroken {r : Rendering} {w : Value}
    (h : exec c (renderingValue (.upTo n) r) s = .ok w s') (hw : w.isBroken = false) :
    r.Throughout (Outline.IsCompact n) := by
  cases r with
  | value v => trivial
  | outline o =>
    rw [isBroken_renderingValue h, Bool.eq_false_iff, ne_eq, List.contains_iff_mem] at hw
    exact Outline.throughout_isCompact hw (.inl fun k hk => of_decide_eq_true hk)

/-- A compact rendering is written as if every line were short enough. -/
theorem renderingValue_of_isCompact {line : LineLimit} (hline : ∀ k ≤ n, line.allows k = true)
    {r : Rendering} (hr : r.Throughout (Outline.IsCompact n)) :
    renderingValue line r = renderingValue .always r := by
  cases r with
  | value v => rfl
  | outline o =>
    have hlayout := Outline.layout_eq_always (Outline.lineFeed_notMem_of_isCompact hline hr)
    cases o with
    | cut | circular => rfl
    | leaf | list | tuple | set | arranged | mapping =>
      exact congrArg (fun text => ownText (String.ofList text)) hlayout

theorem exec_renderValue_of_isCompact {line line' : LineLimit}
    (hline' : ∀ k ≤ n, line'.allows k = true) {depth : Nat} {v : Value} {r : Rendering}
    (h : exec c (unfold line depth [] v) s = .ok r s') (hr : r.Throughout (Outline.IsCompact n)) :
    exec c (renderValue ⟨line', depth⟩ v) s = exec c (renderingValue .always r) s' := by
  rw [renderValue, exec_bind, exec_unfold_of_isCompact hline' h hr, Ending.andThen_ok,
    renderingValue_of_isCompact hline' hr]

/-- **A rendering is broken exactly when it must be.**  Whatever a value and its parts do when they are
asked: if no name that is shown has a line feed, a rendering has several lines if and only if the rendering
under which every line is short enough shows a container with more than `n` characters on one line, other
than a tuple with one item.  If a rendering has one line, it is the same under every greater limit and under
none.  It comes to an end, unless it is broken and the members of a set, shown as broken texts, fail to
tell their order. -/
theorem inspect_breaks_iff {v options : Value} {depth : Nat} {r : Rendering} {s₁ : Session}
    (hoptions : s.heap.knownLimits? options = some ⟨.upTo n, depth⟩)
    (hr : exec c (unfold .always depth [] v) s = .ok r s₁) (hflat : r.IsFlat) :
    (∀ w s', exec c (inspect v options) s = .ok w s' →
      (w.isBroken = true ↔ ∃ q, r.Shows q ∧ q.IsWide n) ∧
      (w.isBroken = false → ∀ options' n', n ≤ n' →
        s.heap.knownLimits? options' = some ⟨.upTo n', depth⟩ →
        exec c (inspect v options') s = exec c (renderValue ⟨.always, depth⟩ v) s)) ∧
    (r.Throughout Outline.IsOrderly ∨ (¬∃ q, r.Shows q ∧ q.IsWide n) →
      ∃ w s', exec c (inspect v options) s = .ok w s') := by
  have hallows {m : Nat} (hm : n ≤ m) (k : Nat) (hk : k ≤ n) : (LineLimit.upTo m).allows k = true :=
    decide_eq_true (Nat.le_trans hk hm)
  have halways (k : Nat) (_ : k ≤ n) : LineLimit.always.allows k = true := rfl
  rw [r.exists_isWide_iff hflat]
  refine ⟨fun w s' hw => ?_, fun h => ?_⟩
  · rw [exec_inspect hoptions, renderValue] at hw
    obtain ⟨r', s₂, hr', hw⟩ := exists_of_exec_bind hw
    have hcompact (h : w.isBroken = false) := isCompact_of_isBroken hw h
    refine ⟨⟨fun hbroken h => ?_, fun h => ?_⟩, fun h options' m hm hoptions' => ?_⟩
    · -- Nothing is too long, so both renderings are the same.
      cases hr'.symm.trans (exec_unfold_of_isCompact (hallows (Nat.le_refl n)) hr h)
      exact absurd (isBroken_of_isCompact (hallows (Nat.le_refl n)) hflat h hw) (by rw [hbroken]; decide)
    · rw [← Bool.not_eq_false]
      intro hbroken
      have hr'compact := hcompact hbroken
      cases hr.symm.trans (exec_unfold_of_isCompact halways hr' hr'compact)
      exact h hr'compact
    · rw [exec_inspect hoptions', exec_renderValue_of_isCompact (hallows hm) hr' (hcompact h),
        exec_renderValue_of_isCompact halways hr' (hcompact h)]
  · have hunfold : exec c (unfold (.upTo n) depth [] v) s = .ok r s₁ := by
      rcases h with h | h
      · exact exec_unfold_of_isOrderly hr h _
      · exact exec_unfold_of_isCompact (hallows (Nat.le_refl n)) hr (Classical.not_not.mp h)
    obtain ⟨w, s', hw⟩ := exists_renderingValue c (.upTo n) r s₁
    exact ⟨w, s', by rw [exec_inspect hoptions, renderValue, exec_bind, hunfold, Ending.andThen_ok, hw]⟩

end Run

/-! ### A set that is broken -/

/-- A session in which containers were made one after the other, and a class of texts, the objects of
which have a method of the caller's. -/
def Session.withMethod (method : Method) (fn : Value) (cells : List Cell) : Session :=
  { Session.ofCells cells with
    heap := { (Session.ofCells cells).heap with
      declarations := #[⟨.kept "K", [.kind .text, .kind .object], .kind .text, [.kind .text]⟩]
      attributes := Heap.start.attributes ++ [⟨.ofClass (.declared 0), method.name, fn⟩]
      next := 9 } }

/-- A list that contains itself, and a set of a name that compares in its own way and a tuple. -/
def setCells : List Cell :=
  [⟨.kind .list, .list [.ref 0, .frozenSet (.kind .frozenSet) 8
    [⟨namedBy (.declared 0), hashText "x"⟩, ⟨.tuple (.kind .tuple) 7
      [.keptText "a", .keptText "long", .keptText "line", .keptText "of", .keptText "items"],
      hashText "a"⟩]]⟩]

/-- A session with this list, in which a name of its own class is less than every other text. -/
def setSession : Session := .withMethod .less (.ofClass (.kind .bool)) setCells

namespace Run

theorem inspect_breaks_iff_set :
    setSession.heap.knownLimits? (.limits 20 8) = some ⟨.upTo 20, 8⟩ ∧
    ∃ r s₁ w s', exec (Ask.conduct .none 2) (unfold .always 8 [] (.ref 0)) setSession = .ok r s₁ ∧
      r.IsFlat ∧ (∃ q, r.Shows q ∧ q.IsWide 20) ∧
      exec (Ask.conduct .none 2) (inspect (.ref 0) (.limits 20 8)) setSession = .ok w s' ∧
        w.isBroken = true := by
  have hlimits : setSession.heap.knownLimits? (.limits 20 8) = some ⟨.upTo 20, 8⟩ := by
    decide +kernel
  have hunfold : (exec (Ask.conduct .none 2) (unfold .always 8 [] (.ref 0)) setSession).result?.any
      (fun r => decide (r.IsFlat ∧ ¬r.Throughout (Outline.IsCompact 20))) = true := by
    decide +kernel
  have hinspect : (exec (Ask.conduct .none 2) (inspect (.ref 0) (.limits 20 8))
      setSession).result?.isSome = true := by
    decide +kernel
  rcases hr : exec (Ask.conduct .none 2) (unfold .always 8 [] (.ref 0)) setSession with ⟨r, s₁⟩ | ⟨e, s₁⟩
  · rcases hw : exec (Ask.conduct .none 2) (inspect (.ref 0) (.limits 20 8)) setSession with
      ⟨w, s'⟩ | ⟨e, s'⟩
    · rw [hr] at hunfold
      obtain ⟨hflat, hcompact⟩ := of_decide_eq_true hunfold
      have hwide := (r.exists_isWide_iff hflat 20).mpr hcompact
      obtain ⟨hbreaks, -⟩ := inspect_breaks_iff hlimits hr hflat
      exact ⟨hlimits, r, s₁, w, s', rfl, hflat, hwide, rfl, (hbreaks w s' hw).1.mpr hwide⟩
    · rw [hw] at hinspect
      cases hinspect
  · rw [hr] at hunfold
    cases hunfold

/-! ### A name that has two lines inside a longer text -/

/-- A session in which a name of its own class becomes another text, with two lines, where it stands
inside a longer text. -/
def linesSession : Session :=
  .withMethod .plainForm (.function 6 (.kept "lines") false (.returns (.keptText "a\nb"))) []

/-- The name of a predicate has no line feed, and nothing but a tuple with one item is shown, but this
has two lines. -/
theorem inspect_breaks_formatted :
    let shown (v : Value) :=
      (exec (Ask.conduct .none 2) (inspect v (.limits 20 8)) linesSession).result?.map (·.text?)
    let one := Value.tuple (.kind .tuple) 5 [namedBy (.declared 0)]
    linesSession.heap.knownLimits? (.limits 20 8) = some ⟨.upTo 20, 8⟩ ∧
      shown (namedBy (.declared 0)) = some (some "x") ∧
      ShowsOnly (¬·.IsWide 20) (Ask.conduct .none 2) linesSession .always 8 one ∧
      shown one = some (some "(a\nb,)") := by
  decide +kernel

end Run

end ValueShape
