import ValueShape.Proofs.Conduct.Dict

/-!
# Foreign mappings

What is read of the mappings of a caller's own making.  Such a mapping has entries in an order, which may
repeat a key, and some of its methods may refuse to be called.

* `Heap.HoldsForeign h place m` says that such a mapping is in its place, and that neither its class nor
  the mapping itself was changed.
* `Run.exec_readParts_refused` and `Run.exec_getValue_refused` are the failures of the methods that
  refuse.
* `Run.settles_readParts_foreign` are the keys, the values or the entries otherwise, and
  `Run.exec_getValue_foreign` is the value under a key: that of the first entry whose key equals it.
-/

set_option autoImplicit false

namespace ValueShape

/-- A foreign mapping whose class and whose attributes are as they were made. -/
structure Heap.HoldsForeign (h : Heap) (place : Nat) (m : Foreign) : Prop where
  /-- It is in its place. -/
  cell : h.cells[place]? = some ⟨.kind .foreign, .foreign m⟩
  /-- It belongs to its class. -/
  ordinary : h.IsOrdinary .foreign (.ref place)
  /-- No attribute was assigned to it. -/
  bare (name : String) : h.assigned? (.ref place) name = none

namespace Run

variable {c : Conduct} {I : Session → Prop} {s : Session} {place : Nat} {m : Foreign}

/-! ## Methods that refuse

A foreign mapping is read by four methods, and may refuse each of them with a failure of its own. -/

section Refuse

variable (hholds : s.heap.HoldsForeign place m)
include hholds

/-- What a foreign mapping answers when it is read. -/
theorem exec_foreignEntries (a : Access) :
    exec c (foreignEntries a (.ref place)) s =
      if a ∈ m.failing then .error (.raised m.failure) s else .ok m.entries s := by
  have hcontents : s.heap.contents? (.ref place) = some (.foreign m) := by
    rw [Heap.contents?, Heap.cell?, hholds.cell]
    rfl
  have hforeign : s.heap.foreign? (.ref place) = some m := by
    simp only [Heap.foreign?, hcontents, hholds.bare]
  simp only [foreignEntries, requireForeign, exec_bind, exec_heap, Ending.andThen_ok, hcontents,
    hforeign, Bool.not_true, Bool.false_and, Bool.false_eq_true, if_false, exec_pure]
  split <;> rfl

theorem exec_listing_foreign (part : Part) :
    exec c (listing part (.ref place)) s =
      (exec c (foreignEntries part.access (.ref place)) s).andThen fun es s =>
        (exec c (es.mapM fun e => partOf part e.1 e.2) s).andThen fun ws s =>
          .ok (.parts (.rest ws) none) s := by
  have hnative : nativeListing .foreign part (.ref place) = (do
      let _ ← heap
      let es ← foreignEntries part.access (.ref place)
      return .parts (.rest (← es.mapM fun e => partOf part e.1 e.2)) none) := rfl
  rw [exec_listing_of_inherited c hholds.ordinary rfl rfl part (hholds.bare _)
    (show _ = some (Slot.native .foreign) by cases part <;> rfl), hnative]
  simp only [exec_bind, exec_heap, Ending.andThen_ok, exec_pure]

/-- A part that the mapping refuses to tell. -/
theorem exec_readParts_refused {part : Part} (hfails : part.access ∈ m.failing) :
    exec c (readParts part (.ref place)) s = .error (.raised m.failure) s := by
  rw [readParts, exec_bind, exec_listing_foreign hholds, exec_foreignEntries hholds, if_pos hfails]
  rfl

theorem exec_guarded_refused {part : Part} (hfails : part.access ∈ m.failing)
    (hfailure : m.failure.isOrdinary = true) :
    exec c (guarded (readParts part (.ref place))) s = .ok none s := by
  rw [guarded, exec_recovering, exec_readParts_refused hholds hfails]
  exact if_pos hfailure

theorem exec_getValue_eq (key default : Value) :
    exec c (getValue (.ref place) key default) s =
      (exec c (foreignEntries .get (.ref place)) s).andThen fun es s =>
        (exec c (searchEntries key es) s).andThen fun found s => .ok (found.getD default) s := by
  have hnative : nativeGet .foreign (.ref place) key default = (do
      return (← searchEntries key (← foreignEntries .get (.ref place))).getD default) := rfl
  rw [exec_getValue_of_inherited c hholds.ordinary rfl rfl (hholds.bare _)
    (show _ = some (Slot.native .foreign) from rfl), hnative]
  simp only [exec_bind, exec_pure]

/-- A value that the mapping refuses to tell. -/
theorem exec_getValue_refused (hfails : Access.get ∈ m.failing) (key default : Value) :
    exec c (getValue (.ref place) key default) s = .error (.raised m.failure) s := by
  rw [exec_getValue_eq hholds, exec_foreignEntries hholds, if_pos hfails]
  rfl

end Refuse

/-! ## Methods that answer -/

/-- The keys, the values or the entries of a foreign mapping that tells them. -/
theorem settles_readParts_foreign (hI : Session.Steadfast I) (hholds : s.heap.HoldsForeign place m)
    {part : Part} (hfails : part.access ∉ m.failing)
    (hid : ∀ e ∈ m.entries, IsPartAsIs part e.1 e.2) (hs : I s) :
    Settles c I s (readParts part (.ref place)) fun ws _ =>
      List.Forall₂ (fun e w => YieldsPart part e.1 e.2 w) m.entries ws := by
  have hparts : Settles c I s (m.entries.mapM fun e => partOf part e.1 e.2) fun ws _ =>
      List.Forall₂ (fun e w => w.isIdentified = true ∧ YieldsPart part e.1 e.2 w) m.entries ws := by
    refine settles_mapM (fun e he s' hs' => ?_) hs
    obtain ⟨w, n, hn, hw, hidentified, hyields⟩ := exec_partOf c s' (hid e he)
    exact .of_exec hI hs' hw (.withNext hn) ⟨hidentified, hyields⟩
  obtain ⟨ws, s', hws, hle, hs', hforall⟩ := hparts
  have hlisting : exec c (listing part (.ref place)) s = .ok (.parts (.rest ws) none) s' := by
    rw [exec_listing_foreign hholds, exec_foreignEntries hholds, if_neg hfails, Ending.andThen_ok, hws]
    rfl
  obtain ⟨hidentified, hyields⟩ := (List.forall₂_and_left _ _).mp hforall.flip
  have hrest : Iterates c I Eq ws (.rest ws) := iterates_rest hidentified
  have hread : Settles c I s' (readListing (.parts (.rest ws) none)) fun vs _ => vs = ws := by
    rw [readListing, Option.forM.eq_def, pure_bind]
    refine (settles_elements hrest (hasRoom_rest ws) hs').mono fun vs _ _ _ hvs => ?_
    rw [List.forall₂_eq_eq_eq] at hvs
    exact hvs.symm
  obtain ⟨vs, s'', hvs, hle', hs'', rfl⟩ := hread
  refine ⟨_, s'', ?_, hle.trans hle', hs'', hyields.flip⟩
  rw [readParts, exec_bind, hlisting, Ending.andThen_ok, hvs]

/-- The value under a key is that of the first entry whose key equals it. -/
theorem exec_getValue_foreign (hholds : s.heap.HoldsForeign place m) (hfails : Access.get ∉ m.failing)
    (key default : Value) :
    exec c (getValue (.ref place) key default) s =
      (exec c (searchEntries key m.entries) s).map fun found => found.getD default := by
  rw [exec_getValue_eq hholds, exec_foreignEntries hholds, if_neg hfails, Ending.andThen_ok]
  cases exec c (searchEntries key m.entries) s <;> rfl

end Run

end ValueShape
