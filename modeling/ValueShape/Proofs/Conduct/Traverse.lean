import ValueShape.Proofs.Conduct.Keep

/-!
# Going through values keeps to a course

How many elements a value has and whether it counts as true, its entries and items, iteration over
it, and the search for something in it: all of this keeps to a course that the conduct keeps to.
-/

set_option autoImplicit false

namespace ValueShape

namespace Run.Keeps

variable {R : Session → Session → Prop} {c : Conduct} {α β : Type} (hc : c.Keeps R)
include hc

/-! ## Sizes and truth -/

theorem asIndex? (v : Value) : Keeps R c (asIndex? v) := by
  unfold Run.asIndex?
  grind

theorem asIndex (v : Value) : Keeps R c (asIndex v) := by
  have hasIndex := asIndex? hc
  unfold Run.asIndex
  grind

theorem lengthGiven (result : Value) : Keeps R c (lengthGiven result) := by
  have hasIndex := asIndex hc
  unfold Run.lengthGiven
  grind

theorem requireForeign (v : Value) : Keeps R c (requireForeign v) := by
  unfold Run.requireForeign
  grind

theorem nativeSize (k : Kind) (v : Value) : Keeps R c (nativeSize k v) := by
  have hrequireForeign := requireForeign hc
  unfold Run.nativeSize
  grind

theorem size (v : Value) : Keeps R c (size v) := by
  have hlengthGiven := lengthGiven hc
  have hnativeSize := nativeSize hc
  fun_induction Run.size v <;> grind

theorem truth (v : Value) : Keeps R c (truth v) := by
  have hsize := size hc
  unfold Run.truth
  grind

theorem equal (v w : Value) : Keeps R c (equal v w) := by
  have htruth := truth hc
  unfold Run.equal
  grind

theorem equivalent (v w : Value) : Keeps R c (equivalent v w) := by
  have hequal := equal hc
  unfold Run.equivalent
  grind

/-! ## Keys -/

theorem keyed (v : Value) : Keeps R c (keyed v) := by
  unfold Run.keyed
  grind

theorem isKey (key stored : Key Value) : Keeps R c (isKey key stored) := by
  have hequivalent := equivalent hc
  unfold Run.isKey
  grind

theorem entryUnder? (key : Key Value) (es : List Entry) : Keeps R c <| entryUnder? key es := by
  have hisKey := isKey hc
  fun_induction Run.entryUnder? key es <;> grind

theorem insertEntry (key : Key Value) (value : Value) (es : List Entry) :
    Keeps R c (insertEntry key value es) := by
  have hisKey := isKey hc
  fun_induction Run.insertEntry key value es <;> grind

theorem distinctEntries (pairs : List (Value × Value)) :
    Keeps R c (distinctEntries pairs) := by
  have hkeyed := keyed hc
  have hinsertEntry := insertEntry hc
  unfold Run.distinctEntries
  grind

theorem hasMember (key : Key Value) (members : List (Key Value)) :
    Keeps R c (hasMember key members) := by
  have hisKey := isKey hc
  fun_induction Run.hasMember key members <;> grind

theorem insertMember (members : List (Key Value)) (key : Key Value) :
    Keeps R c (insertMember members key) := by
  have hhasMember := hasMember hc
  unfold Run.insertMember
  grind

theorem newDict (cls : Class) (pairs : List (Value × Value)) :
    Keeps R c (newDict cls pairs) := by
  have hdistinctEntries := distinctEntries hc
  unfold Run.newDict
  grind

theorem newView (pairs : List (Value × Value)) : Keeps R c (newView pairs) := by
  have hnewDict := newDict hc
  unfold Run.newView
  grind

/-! ## Items -/

theorem requireIndex (refusal : String → String) (key : Value) :
    Keeps R c (requireIndex refusal key) := by
  have hasIndex := asIndex? hc
  unfold Run.requireIndex
  grind

theorem fitting (unfit : String → Failure) (key : Value) (i : Int) :
    Keeps R c (fitting unfit key i) := by
  unfold Run.fitting
  grind

theorem requireFit (rule : IndexRule) (key : Value) : Keeps R c (requireFit rule key) := by
  have hrequireIndex := requireIndex hc
  have hfitting := fitting hc
  unfold Run.requireFit
  grind

theorem requirePosition (rule : IndexRule) (length : Nat) (key : Value) :
    Keeps R c (requirePosition rule length key) := by
  have hrequireFit := requireFit hc
  unfold Run.requirePosition
  grind

theorem rangeItem (start stop step : Int) (key : Value) :
    Keeps R c (rangeItem start stop step key) := by
  have hrequireIndex := requireIndex hc
  unfold Run.rangeItem
  grind

theorem sequenceItem (k : Kind) (v key : Value) : Keeps R c (sequenceItem k v key) := by
  have hrequirePosition := requirePosition hc
  unfold Run.sequenceItem
  grind

theorem written (v : Value) : Keeps R c (written v) := by
  unfold Run.written
  grind

theorem forwardReference (v : Value) : Keeps R c (forwardReference v) := by
  have hwritten := written hc
  unfold Run.forwardReference
  grind

theorem forwardParameter (key : Value) : Keeps R c (forwardParameter key) := by
  have hforwardReference := forwardReference hc
  have hwritten := written hc
  unfold Run.forwardParameter
  grind

theorem newParameterized (key : Value) : Keeps R c (newParameterized key) := by
  have hforwardParameter := forwardParameter hc
  unfold Run.newParameterized
  grind

theorem parameterizePredicate (key : Value) : Keeps R c (parameterizePredicate key) := by
  have haliases (v : Value) :
      Keeps R c (Run.modifyHeap fun h => { h with aliases := (key, v) :: h.aliases }) :=
    modifyHeap hc fun _ hg => hg.evolves_aliases _
  unfold Run.parameterizePredicate
  refine bind hc (recovering hc _ (hash hc key)) fun hash? => ?_
  split
  · exact newParameterized hc key
  · refine bind hc (heap hc) fun h => bind hc (findM? hc (fun made => equivalent hc _ _) _) fun made? => ?_
    split
    · exact pure hc _
    · exact bind hc (newParameterized hc key) fun v => bind hc (haliases v) fun _ => pure hc v

theorem parameterize (cls : Class) (parameter : Value) :
    Keeps R c (parameterize cls parameter) := by
  have hparameterizePredicate := parameterizePredicate hc
  unfold Run.parameterize
  grind

theorem notGeneric (v : Value) : Keeps R c (notGeneric v) := by
  have hwritten := written hc
  unfold Run.notGeneric
  grind

theorem classItem (cls : Class) (key : Value) : Keeps R c (classItem cls key) := by
  have hparameterize := parameterize hc
  have hparameterizePredicate := parameterizePredicate hc
  have hnotGeneric := notGeneric hc
  unfold Run.classItem
  grind

theorem missingItem (v key : Value) : Keeps R c (missingItem v key) := by
  unfold Run.missingItem
  grind

theorem searchEntries (key : Value) (es : List (Value × Value)) :
    Keeps R c (searchEntries key es) := by
  have hequal := equal hc
  fun_induction Run.searchEntries key es <;> grind

theorem nativeItem (k : Kind) (v key : Value) : Keeps R c (nativeItem k v key) := by
  have hkeyed := keyed hc
  have hentryUnder := entryUnder? hc
  have hmissingItem := missingItem hc
  have hrequireForeign := requireForeign hc
  have hsearchEntries := searchEntries hc
  have hrangeItem := rangeItem hc
  have hsequenceItem := sequenceItem hc
  unfold Run.nativeItem
  grind

theorem item (v key : Value) : Keeps R c (item v key) := by
  have hnotGeneric := notGeneric hc
  have hclassItem := classItem hc
  have hnativeItem := nativeItem hc
  fun_induction Run.item v key <;> grind

/-! ## Iteration

An iterator may go through another one, so that one step leads to further steps.  Their number is
bounded by fuel, and the induction is on that. -/

theorem cursorOf (iterator : Value) : Keeps R c (cursorOf iterator) := by
  unfold Run.cursorOf
  grind

theorem nativeCursor (k : Kind) (v : Value) : Keeps R c (nativeCursor k v) := by
  have hrequireForeign := requireForeign hc
  unfold Run.nativeCursor
  grind

theorem cursorOr (refusal : String → Failure) (v : Value) :
    Keeps R c (cursorOr refusal v) := by
  have hcursorOf := cursorOf hc
  have hnativeCursor := nativeCursor hc
  fun_induction Run.cursorOr refusal v <;> grind

theorem cursor (v : Value) : Keeps R c (cursor v) := cursorOr hc _ v

theorem partOf (part : Part) (key value : Value) : Keeps R c (partOf part key value) := by
  unfold Run.partOf
  grind

@[grind ←] theorem nextPart (part : Part) (mapping : Value) {next : Run (Option (Value × Cursor))}
    (hnext : Keeps R c next) : Keeps R c (nextPart part mapping next) := by
  have hitem := item hc
  have hpartOf := partOf hc
  unfold Run.nextPart
  grind

theorem nextEntry (part : Part) (ordered : Bool) (source : Value) (place size : Nat)
    (back : Bool) : Keeps R c (nextEntry part ordered source place size back) := by
  have hpartOf := partOf hc
  unfold Run.nextEntry
  grind

theorem nextElement (cursor : Cursor) : Keeps R c (nextElement cursor) := by
  have hnextEntry := nextEntry hc
  have hitem := item hc
  have hsize := size hc
  unfold Run.nextElement
  grind

/-- An iterator goes on from where it stands, whatever its own iteration comes to. -/
theorem nextOfIterator {v : Value} {cursor : Cursor} {m : Run (Option (Value × Cursor))}
    (hm : Keeps R c m) {s : Session} (hv : s.heap.contents? v = some (.iterator cursor)) :
    R s (exec c (do
      match ← MonadExcept.tryCatch (Except.ok <$> m) fun e => return Except.error e with
      | .ok (some (item, next)) =>
        overwrite v (.iterator next)
        return some item
      | .ok none =>
        overwrite v (.iterator (.rest []))
        return none
      | .error e =>
        if !failsForGood cursor then overwrite v (.iterator (.rest []))
        MonadExcept.throw e : Run (Option Value)) s).session := by
  have hms := hm s
  have hgoes (next : Cursor) := hc.course.iterator hms hv next
  rw [exec_bind, exec_tryCatch, exec_map]
  rcases hend : exec c m s with ⟨_ | ⟨item, next⟩, s'⟩ | ⟨e, s'⟩ <;> rw [hend] at hms hgoes
  · exact hgoes _
  · exact hgoes _
  · simp only [Ending.map, Ending.andThen_error, exec_pure, Ending.andThen_ok]
    cases failsForGood cursor
    · exact hgoes _
    · exact hms

theorem nextUpTo_nextOfUpTo (fuel : Nat) :
    (∀ cursor, Keeps R c (nextUpTo fuel cursor)) ∧ ∀ v, Keeps R c (nextOfUpTo fuel v) := by
  have hcursor := cursor hc
  have hnextElement := nextElement hc
  induction fuel with
  | zero => exact ⟨fun cursor => throw hc _, fun v => throw hc _⟩
  | succ fuel ih =>
    obtain ⟨ihnext, ihnextOf⟩ := ih
    refine ⟨fun cursor => ?_, fun v => ?_⟩
    · unfold Run.nextUpTo
      split <;> grind
    · intro s
      rw [Run.nextOfUpTo, exec_bind, exec_heap, Ending.andThen_ok]
      split
      · exact recovering hc _ (callBound hc _ _ _) s
      next hv => exact nextOfIterator hc (ihnext _) ‹_›
      · exact hc.course.refl s

theorem next (cursor : Cursor) : Keeps R c (next cursor) := (nextUpTo_nextOfUpTo hc _).1 cursor

@[grind ←] theorem foldUpTo {step : α → Value → Run α} (hstep : ∀ a v, Keeps R c (step a v))
    (fuel : Nat) (a : α) (cursor : Cursor) : Keeps R c (foldUpTo step fuel a cursor) := by
  induction fuel generalizing a cursor with
  | zero => exact throw hc _
  | succ fuel ih =>
    refine bind hc (next hc cursor) fun part => ?_
    rcases part with _ | ⟨v, cursor⟩
    · exact pure hc a
    · exact bind hc (hstep a v) fun _ => ih _ _

@[grind ←] theorem allUpTo {test : Value → Run Bool} (htest : ∀ v, Keeps R c (test v)) (fuel : Nat)
    (cursor : Cursor) : Keeps R c (allUpTo test fuel cursor) := by
  induction fuel generalizing cursor with
  | zero => exact throw hc _
  | succ fuel ih =>
    refine bind hc (next hc cursor) fun part => ?_
    rcases part with _ | ⟨v, cursor⟩
    · exact pure hc true
    · refine bind hc (htest v) fun passes => ?_
      cases passes
      · exact pure hc false
      · exact ih _

theorem limit (cursor : Cursor) : Keeps R c (limit cursor) := by
  unfold Run.limit
  grind

@[grind ←] theorem fold {step : α → Value → Run α} (hstep : ∀ a v, Keeps R c (step a v)) (a : α)
    (cursor : Cursor) : Keeps R c (fold step a cursor) := by
  have hlimit := limit hc
  unfold Run.fold
  grind

@[grind ←] theorem each {use : Nat → Value → Run α} (huse : ∀ i v, Keeps R c (use i v))
    (cursor : Cursor) : Keeps R c (each use cursor) := by
  unfold Run.each
  grind

@[grind ←] theorem allFrom {test : Value → Run Bool} (htest : ∀ v, Keeps R c (test v))
    (cursor : Cursor) : Keeps R c (allFrom test cursor) := by
  have hlimit := limit hc
  unfold Run.allFrom
  grind

@[grind ←] theorem anyFrom {test : Value → Run Bool} (htest : ∀ v, Keeps R c (test v))
    (cursor : Cursor) : Keeps R c (anyFrom test cursor) := by
  unfold Run.anyFrom
  grind

theorem elements (cursor : Cursor) : Keeps R c (elements cursor) := by
  unfold Run.elements
  grind

theorem hintGiven (result : Value) : Keeps R c (hintGiven result) := by
  unfold Run.hintGiven
  grind

theorem lengthHint (v : Value) : Keeps R c (lengthHint v) := by
  have hsize := size hc
  have hhintGiven := hintGiven hc
  unfold Run.lengthHint
  grind

theorem reserve (v : Value) : Keeps R c (reserve v) := by
  have hlengthHint := lengthHint hc
  unfold Run.reserve
  grind

theorem iterate (v : Value) : Keeps R c (iterate v) := by
  have hcursor := cursor hc
  have helements := elements hc
  have hreserve := reserve hc
  unfold Run.iterate
  grind

theorem toTuple (v : Value) : Keeps R c (toTuple v) := by
  have hiterate := iterate hc
  unfold Run.toTuple
  grind

theorem unpackTwo (v : Value) : Keeps R c (unpackTwo v) := by
  unfold Run.unpackTwo
  refine bind hc (cursorOr hc _ v) fun _ => bind hc (next hc _) fun first => ?_
  cases first with
  | none => exact throw hc _
  | some first =>
    refine bind hc (next hc _) fun second => ?_
    cases second with
    | none => exact throw hc _
    | some second => exact bind hc (next hc _) fun third => by cases third <;> grind

/-! ## Mappings -/

theorem foreignEntries (a : Access) (v : Value) : Keeps R c (foreignEntries a v) := by
  have hrequireForeign := requireForeign hc
  unfold Run.foreignEntries
  grind

theorem nativeListing (k : Kind) (part : Part) (v : Value) :
    Keeps R c (nativeListing k part v) := by
  have hforeignEntries := foreignEntries hc
  have hpartOf := partOf hc
  unfold Run.nativeListing
  grind

theorem callListing (part : Part) (v : Value) (callee : Callee) :
    Keeps R c (callListing part v callee) := by
  have hnativeListing := nativeListing hc
  unfold Run.callListing
  grind

theorem listing (part : Part) (v : Value) : Keeps R c (listing part v) := by
  have hcallListing := callListing hc
  fun_induction Run.listing part v <;> grind

theorem openListing (l : Listing) : Keeps R c (openListing l) := by
  have hcursor := cursor hc
  unfold Run.openListing
  grind

theorem readListing (l : Listing) : Keeps R c (readListing l) := by
  have hiterate := iterate hc
  have hsize := size hc
  have helements := elements hc
  unfold Run.readListing
  grind

theorem readParts (part : Part) (v : Value) : Keeps R c (readParts part v) := by
  have hlisting := listing hc
  have hreadListing := readListing hc
  unfold Run.readParts
  grind

/-! ## Entries -/

theorem readPair (place : Nat) (pair : Value) : Keeps R c (readPair place pair) := by
  have hcursor := cursor hc
  have helements := elements hc
  unfold Run.readPair
  grind

theorem mergePairs (cursor : Cursor) : Keeps R c (mergePairs cursor) := by
  have hreadPair := readPair hc
  have hkeyed := keyed hc
  have hinsertEntry := insertEntry hc
  unfold Run.mergePairs
  grind

theorem mergeKeys (v : Value) (cursor : Cursor) : Keeps R c (mergeKeys v cursor) := by
  have hitem := item hc
  have hkeyed := keyed hc
  have hinsertEntry := insertEntry hc
  unfold Run.mergeKeys
  grind

theorem unreadableKeys (v keys : Value) : Keeps R c (unreadableKeys v keys) := by
  unfold Run.unreadableKeys
  grind

theorem allKeys (v : Value) : Keeps R c (allKeys v) := by
  have hlisting := listing hc
  have helements := elements hc
  have hcursor := cursor hc
  have hunreadableKeys := unreadableKeys hc
  unfold Run.allKeys
  grind

theorem hasKeys (v : Value) : Keeps R c (hasKeys v) := by
  unfold Run.hasKeys
  grind

theorem toEntries (v : Value) : Keeps R c (toEntries v) := by
  have hhasKeys := hasKeys hc
  have hallKeys := allKeys hc
  have hmergeKeys := mergeKeys hc
  have hcursor := cursor hc
  have hmergePairs := mergePairs hc
  unfold Run.toEntries
  grind

theorem entriesOf (v : Value) : Keeps R c (entriesOf v) := by
  have hlisting := listing hc
  have htoEntries := toEntries hc
  have hmergePairs := mergePairs hc
  unfold Run.entriesOf
  grind

theorem toMembers (v : Value) : Keeps R c (toMembers v) := by
  have hcursor := cursor hc
  have hkeyed := keyed hc
  have hinsertMember := insertMember hc
  unfold Run.toMembers Run.toMembers.read
  grind

/-! ## Search -/

theorem occurs (key : Value) (cursor : Cursor) : Keeps R c (occurs key cursor) := by
  have hequivalent := equivalent hc
  unfold Run.occurs
  grind

theorem containsInt (start stop step : Int) (key : Value) :
    Keeps R c (containsInt start stop step key) := by
  have hoccurs := occurs hc
  unfold Run.containsInt
  grind

theorem containsBytes (bs : List UInt8) (key : Value) :
    Keeps R c (containsBytes bs key) := by
  have hasIndex := asIndex? hc
  unfold Run.containsBytes
  grind

theorem containsText (s : String) (key : Value) : Keeps R c (containsText s key) := by
  unfold Run.containsText
  grind

theorem hasItem (v key : Value) : Keeps R c (hasItem v key) := by
  have hitem := item hc
  unfold Run.hasItem
  grind

theorem containsMember (members : List (Key Value)) (key : Value) :
    Keeps R c (containsMember members key) := by
  have hhasMember := hasMember hc
  have hkeyed := keyed hc
  unfold Run.containsMember
  grind

theorem hasPair (v pair : Value) : Keeps R c (hasPair v pair) := by
  have hkeyed := keyed hc
  have hentryUnder := entryUnder? hc
  have hequivalent := equivalent hc
  unfold Run.hasPair
  grind

theorem nativeContains (k : Kind) (v key : Value) : Keeps R c (nativeContains k v key) := by
  have hcontainsText := containsText hc
  have hcontainsBytes := containsBytes hc
  have hcontainsInt := containsInt hc
  have hhasItem := hasItem hc
  have hkeyed := keyed hc
  have hentryUnder := entryUnder? hc
  have hhasMember := hasMember hc
  have hhasPair := hasPair hc
  have hcontainsMember := containsMember hc
  have hcursor := cursor hc
  have hoccurs := occurs hc
  unfold Run.nativeContains
  grind

theorem contains (v key : Value) : Keeps R c (contains v key) := by
  have htruth := truth hc
  have hnativeContains := nativeContains hc
  have hcursor := cursor hc
  have hoccurs := occurs hc
  fun_induction Run.contains v key <;> grind

-- What the functions beyond this module go through values with.
attribute [grind .] contains containsMember cursor entriesOf equal equivalent entryUnder? hasMember
  insertEntry isKey item iterate keyed limit listing next openListing readParts size toMembers
  toTuple truth unpackTwo written

end Run.Keeps

end ValueShape
