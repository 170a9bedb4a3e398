import ValueShape.Proofs.Store.Register

/-!
# The register and the log

What the log tells of the metadata that is registered.

* `Run.report` is what is logged of metadata once it is attached: the name of the factory and the number
  of arguments.  A record with the arguments in a plain tuple reports these, unless there are too many to
  be counted (`Run.exec_report_record`).
* A `Posting` is a registration, together with what the log tells of it.  It is faithful if that is what
  the metadata has reported, so the log tells the name and the number of arguments of each record
  (`Posting.IsFaithful.isCounted`).
* `Session.Posts s ps s'` says that from one session to another these postings were made and no others:
  the registrations were added to the register, and what the log tells of them was added to the log, both
  in this order.
-/

set_option autoImplicit false

namespace ValueShape

open Run

/-! ## Attachments in the log -/

/-- An entry of the log tells of attached metadata. -/
def Event.isAttachment : Event → Bool
  | .attached .. => true
  | .modified .. => false

/-- What the log tells of attached metadata, in order. -/
def Session.attachments (s : Session) : List Event := s.events.filter Event.isAttachment

namespace Run

/-- What is logged of metadata once it is attached. -/
def report (metadata : Value) : Run Event := do
  let factory ← factoryOf metadata
  return .attached factory (← size (← readAttribute metadata argumentsAttribute))

variable (c : Conduct) {s s' : Session}

/-- What is logged is the report. -/
theorem report_bind_log (metadata : Value) :
    (do let e ← report metadata; log e) = (do
      let factory ← factoryOf metadata
      log (.attached factory (← size (← readAttribute metadata argumentsAttribute)))) := by
  simp only [report, bind_assoc, pure_bind]

theorem isAttachment_of_report {c : Conduct} {metadata : Value} {e : Event}
    (h : exec c (report metadata) s = .ok e s') : e.isAttachment = true := by
  obtain ⟨factory, s₁, -, h⟩ := exists_of_exec_bind h
  obtain ⟨args, s₂, -, h⟩ := exists_of_exec_bind h
  obtain ⟨count, s₃, -, h⟩ := exists_of_exec_bind h
  cases h
  rfl

theorem exec_size_tuple_tooLong (hs : s.heap.Intact) (id : Nat) {items : List Value}
    (hle : maxIndex ≤ items.length) :
    ∃ e, exec c (size (.tuple (.kind .tuple) id items)) s = .error e s := by
  have hslot : s.heap.slot? .length (.tuple (.kind .tuple) id items) = some (.native .tuple) :=
    (hs.slot? rfl .length).trans rfl
  have hcount : ¬ s.heap.count (.tuple (.kind .tuple) id items) < maxIndex := Nat.not_lt.mpr hle
  refine ⟨.tooLarge "Python int too large to convert to C ssize_t", ?_⟩
  simp only [size, exec_bind, exec_heap, Ending.andThen_ok, hslot]
  rw [nativeSize, if_neg (by decide), if_neg (by decide), exec_bind, exec_heap, Ending.andThen_ok,
    if_neg hcount, exec_throw]

/-- A record reports the name of its factory and the number of its arguments, if these can be
counted. -/
theorem exec_report_record (hs : s.heap.Intact) (id : Nat) (factory : Name) (id' : Nat)
    (args : List Value) :
    let metadata := Value.metadata (.kind .metadata) id factory (.tuple (.kind .tuple) id' args)
    ∃ n, s.heap.next ≤ n ∧
      ((args.length < maxIndex ∧ ∃ w, w.Shows (.ofName factory) ∧
          exec c (report metadata) s = .ok (.attached w args.length) (s.withNext n)) ∨
        maxIndex ≤ args.length ∧ ∃ e, exec c (report metadata) s = .error e (s.withNext n)) := by
  intro metadata
  obtain ⟨w, n, hn, hw, hshows⟩ := exec_identified c s (.ofName factory)
  have hs' : (s.withNext n).heap.Intact := hs.withNext n
  have hfactory : exec c (factoryOf metadata) s = .ok w (s.withNext n) :=
    (exec_readFactory c hs id factory _).trans hw
  have hargs : exec c (readAttribute metadata argumentsAttribute) (s.withNext n) =
      .ok (.tuple (.kind .tuple) id' args) (s.withNext n) :=
    (exec_readArguments c hs' id factory _).trans (exec_identified_of_isIdentified c rfl)
  refine ⟨n, hn, (Nat.lt_or_ge args.length maxIndex).imp (fun hlt => ⟨hlt, w, hshows, ?_⟩)
    fun hle => ⟨hle, ?_⟩⟩
  · have hsize := exec_size c (readsPlainly_tuple hs' (m := .length) rfl id' args) hlt
    simp only [report, exec_bind, hfactory, hargs, hsize, Ending.andThen_ok, exec_pure]
  · obtain ⟨e, hsize⟩ := exec_size_tuple_tooLong c hs' id' hle
    exact ⟨e, by simp only [report, exec_bind, hfactory, hargs, hsize, Ending.andThen_ok,
      Ending.andThen_error]⟩

end Run

/-! ## Postings

Registering and logging are two steps, and the second one may fail after the first.  A posting is
what has become of both. -/

/-- A registration, and what the log tells of it, if anything. -/
structure Posting where
  /-- The registration. -/
  registration : Registration
  /-- What the log tells of it. -/
  event? : Option Event

/-- Metadata was registered, and the log tells what it has reported, if it has. -/
structure Posting.IsFaithful (p : Posting) : Prop where
  /-- There is metadata. -/
  metadata_ne : p.registration.metadata.identical .null = false
  /-- The log tells what it has reported. -/
  report : ∃ c s, s.heap.Intact ∧ p.event? = (exec c (Run.report p.registration.metadata) s).result?

/-- A record of metadata, with the arguments in a plain tuple. -/
def Value.IsRecord (m : Value) : Prop :=
  ∃ id factory id' args, m = .metadata (.kind .metadata) id factory (.tuple (.kind .tuple) id' args)

/-- Logging what a record reports makes a faithful posting, whether it can be counted or not. -/
theorem Value.IsRecord.exec_log_report {m : Value} (hm : m.IsRecord) (c : Conduct) {s : Session}
    (hs : s.heap.Intact) (key : Key Value) :
    ∃ n event?, s.heap.next ≤ n ∧ Posting.IsFaithful ⟨⟨key, m⟩, event?⟩ ∧
      (exec c (do let e ← report m; log e) s).session =
        { s.withNext n with events := s.events ++ event?.toList } := by
  obtain ⟨id, factory, id', args, rfl⟩ := hm
  obtain ⟨n, hn, ⟨-, w, -, hexec⟩ | ⟨-, e, hexec⟩⟩ := exec_report_record c hs id factory id' args
  · refine ⟨n, some (.attached w args.length), hn, ⟨rfl, c, s, hs, ?_⟩, ?_⟩
    · rw [hexec]
      rfl
    · rw [exec_bind, hexec]
      rfl
  · refine ⟨n, none, hn, ⟨rfl, c, s, hs, ?_⟩, ?_⟩
    · rw [hexec]
      rfl
    · rw [exec_bind, hexec, Ending.andThen_error, Option.toList_none, List.append_nil]
      rfl

/-- If a record was registered whose arguments can be counted, then the log tells the name of the factory
and the number of the arguments. -/
def Posting.IsCounted (p : Posting) : Prop :=
  ∀ id factory id' args, p.registration.metadata =
      .metadata (.kind .metadata) id factory (.tuple (.kind .tuple) id' args) →
    args.length < maxIndex →
      ∃ w, w.Shows (.ofName factory) ∧ p.event? = some (.attached w args.length)

theorem Posting.IsFaithful.isCounted {p : Posting} (h : p.IsFaithful) : p.IsCounted := by
  intro id factory id' args hp hlt
  obtain ⟨c, s, hs, hreport⟩ := h.report
  obtain ⟨n, -, ⟨-, w, hshows, hexec⟩ | ⟨hle, -⟩⟩ := exec_report_record c hs id factory id' args
  · exact ⟨w, hshows, by rw [hreport, hp, hexec]; rfl⟩
  · exact absurd hlt (Nat.not_lt.mpr hle)

theorem Posting.IsFaithful.isAttachment {p : Posting} (h : p.IsFaithful) {e : Event}
    (he : p.event? = some e) : e.isAttachment = true := by
  obtain ⟨c, s, -, hreport⟩ := h.report
  rw [hreport] at he
  cases hexec : exec c (Run.report p.registration.metadata) s with
  | ok e' s' =>
    rw [hexec] at he
    cases he
    exact isAttachment_of_report hexec
  | error e' s' =>
    rw [hexec] at he
    cases he

/-- These postings were made from one session to another, and no others. -/
structure Session.Posts (s : Session) (ps : List Posting) (s' : Session) : Prop where
  /-- The register has grown by the registrations. -/
  register : s'.register = s.register ++ ps.map (·.registration)
  /-- The log tells of them. -/
  attachments : s'.attachments = s.attachments ++ ps.filterMap (·.event?)
  /-- It tells what the metadata has reported. -/
  faithful (p : Posting) (hp : p ∈ ps) : p.IsFaithful

namespace Session

variable {s s' s'' : Session} {ps ps' : List Posting}

namespace Posts

theorem of_eq (hregister : s'.register = s.register) (hlog : s'.attachments = s.attachments) :
    s.Posts [] s' :=
  ⟨by rw [hregister, List.map_nil, List.append_nil], by rw [hlog, List.filterMap_nil, List.append_nil],
    fun _ hp => absurd hp List.not_mem_nil⟩

theorem refl (s : Session) : s.Posts [] s := .of_eq rfl rfl

theorem trans (h : s.Posts ps s') (h' : s'.Posts ps' s'') : s.Posts (ps ++ ps') s'' := by
  refine ⟨?_, ?_, fun p hp => (List.mem_append.mp hp).elim (h.faithful p) (h'.faithful p)⟩
  · rw [h'.register, h.register, List.map_append, List.append_assoc]
  · rw [h'.attachments, h.attachments, List.filterMap_append, List.append_assoc]

end Posts

theorem attachments_append (s : Session) {es : List Event} (hes : ∀ e ∈ es, e.isAttachment = true) :
    { s with events := s.events ++ es }.attachments = s.attachments ++ es := by
  rw [attachments, List.filter_append, List.filter_eq_self.mpr hes]
  rfl

/-- One posting is made. -/
def posted (s : Session) (p : Posting) : Session :=
  { s with register := s.register ++ [p.registration], events := s.events ++ p.event?.toList }

theorem posts_posted (s : Session) {p : Posting} (hp : p.IsFaithful) : s.Posts [p] (s.posted p) := by
  refine ⟨rfl, ?_, fun q hq => List.mem_singleton.mp hq ▸ hp⟩
  have hes : ∀ e ∈ p.event?.toList, e.isAttachment = true :=
    fun e he => hp.isAttachment (Option.mem_toList.mp he)
  refine (s.attachments_append hes).trans ?_
  cases hevent : p.event? <;> simp [hevent]

end Session

end ValueShape
