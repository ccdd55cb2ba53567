import KeyedStore.Proofs.Pairs
import KeyedStore.Proofs.Storage.Within
import Mathlib.Data.List.Induction

/-!
# Documents in memory and their history

What a backend in memory answers is told by what has been asked of it since it was made. Until it is
closed, a slot holds the document that was put into it last, unless the slot has been emptied since.
Once it is closed it refuses every request, whatever else is asked.

- `Memory.Action`, `Memory.ofHistory`: what is asked of a backend, and a fresh backend after it;
- `Memory.Stands`: a document was put and nothing has been written to its slot since;
- `get?_ofHistory`, `ofHistory_eq_closed`: the state after a history;
- `agreeAt_ofHistory_filter`: of a history only what concerns a slot matters to the slot;
- `ofHistory_remembers`: what a backend answers after every history.

## References

- SPEC_FULL.md, section 4.3; section 8, Idempotent upsert; section 10.5, `teardown`
-/

namespace KeyedStore

namespace Memory

/-! ## Histories -/

/-- Something that is asked of a backend. -/
inductive Action where
  /-- To answer a request. -/
  | ask (request : Request)
  /-- To close. -/
  | teardown

/-- An action writes to a slot: it puts a document there or empties it. -/
def Action.Writes (slot : Slot) : Action → Prop
  | .ask (.upsert other _) | .ask (.delete other) => other = slot
  | .ask (.find _) | .ask (.count _) | .teardown => False

/-- The backend after an action. -/
def act (memory : Memory) : Action → Memory
  | .ask request => (perform request memory).2
  | .teardown => memory.teardown.value

/-- A fresh backend after a history of actions. -/
def ofHistory (past : List Action) : Memory :=
  past.foldl act fresh

/-- A document was put into a slot, and nothing has been written to the slot since. -/
def Stands (past : List Action) (slot : Slot) (document : Document) : Prop :=
  ∃ before after, past = before ++ .ask (.upsert slot document) :: after ∧
    ∀ action ∈ after, ¬ action.Writes slot

/-- No document stands before the first action. -/
theorem not_stands_nil (slot : Slot) (document : Document) : ¬ Stands [] slot document := by
  rintro ⟨before, after, h, -⟩
  exact absurd h.symm (by simp)

/-- The last action of a history puts the document, or it spares the slot of a document that has
stood before. -/
theorem stands_concat {past : List Action} {action : Action} {slot : Slot} {document : Document} :
    Stands (past ++ [action]) slot document ↔
      action = .ask (.upsert slot document) ∨ ¬ action.Writes slot ∧ Stands past slot document := by
  constructor
  · rintro ⟨before, after, h, hspared⟩
    rcases after.eq_nil_or_concat' with rfl | ⟨after, last, rfl⟩
    · exact .inl (List.singleton_inj.mp (List.append_inj' h rfl).2)
    · -- The last action comes behind the one that has put the document.
      rw [← List.cons_append, ← List.append_assoc] at h
      obtain ⟨rfl, hlast⟩ := List.append_inj' h rfl
      obtain rfl : action = last := List.singleton_inj.mp hlast
      refine .inr ⟨hspared _ (by simp), before, after, rfl, ?_⟩
      intro other hother
      exact hspared other (List.mem_append_left _ hother)
  · rintro (rfl | ⟨hspares, before, after, rfl, hspared⟩)
    · exact ⟨past, [], rfl, by simp⟩
    · refine ⟨before, after ++ [action], by simp, ?_⟩
      intro other hother
      rcases List.mem_append.mp hother with hother | hother
      · exact hspared other hother
      · rw [List.mem_singleton.mp hother]
        exact hspares

/-! ## The state after a history -/

/-- The state after a history and one more action is that action on the state before. -/
theorem ofHistory_concat (past : List Action) (action : Action) :
    ofHistory (past ++ [action]) = (ofHistory past).act action := by
  rw [ofHistory, List.foldl_append]
  rfl

/-- A slot after a request to an open backend. -/
theorem act_ask (shelf : Shelf) (request : Request) :
    ∃ after, act (.opened shelf) (.ask request) = .opened after ∧ ∀ slot document,
      after.get? slot = some document ↔
        request = .upsert slot document ∨
          ¬ Action.Writes slot (.ask request) ∧ shelf.get? slot = some document := by
  cases request with
  | find other | count other => exact ⟨shelf, rfl, fun slot document => by simp [Action.Writes]⟩
  | upsert other put =>
    refine ⟨shelf.put other put, rfl, fun slot document => ?_⟩
    by_cases h : slot = other
    · subst h
      simp [Action.Writes]
    · rw [shelf.get?_put_of_ne h]
      simp [Action.Writes, Ne.symm h]
  | delete other =>
    refine ⟨shelf.erase other, rfl, fun slot document => ?_⟩
    by_cases h : slot = other
    · subst h
      simp [Action.Writes]
    · rw [shelf.get?_erase_of_ne h]
      simp [Action.Writes, Ne.symm h]

/-- Until it is closed a backend is open, and a document is in a slot exactly if it was put there
and nothing has been written to the slot since. -/
theorem get?_ofHistory {past : List Action} (h : Action.teardown ∉ past) :
    ∃ shelf, ofHistory past = .opened shelf ∧
      ∀ slot document, shelf.get? slot = some document ↔ Stands past slot document := by
  -- The induction is on the last action, which finds what the earlier ones have left.
  induction past using List.reverseRecOn with
  | nil =>
    refine ⟨.empty, rfl, fun slot document => ?_⟩
    have hget : Shelf.empty.get? slot = none := rfl
    exact iff_of_false (by simp [hget]) (not_stands_nil slot document)
  | append_singleton past action ih =>
    rw [List.mem_append, not_or] at h
    obtain ⟨shelf, hpast, hshelf⟩ := ih h.1
    rw [ofHistory_concat, hpast]
    cases action with
    | teardown => exact absurd (List.mem_singleton_self _) h.2
    | ask request =>
      obtain ⟨after, hact, hafter⟩ := act_ask shelf request
      refine ⟨after, hact, fun slot document => ?_⟩
      rw [hafter, hshelf, stands_concat, Action.ask.injEq]

/-- A teardown closes the store, whatever it holds. -/
theorem act_teardown (memory : Memory) : memory.act .teardown = .closed := by
  cases memory <;> rfl

/-- Whatever follows its closing, a backend stays closed. -/
theorem ofHistory_eq_closed {past : List Action} (h : Action.teardown ∈ past) :
    ofHistory past = .closed := by
  induction past using List.reverseRecOn with
  | nil => exact absurd h (by simp)
  | append_singleton past action ih =>
    rw [ofHistory_concat]
    -- The last action finds the backend closed, or it closes it.
    rcases List.mem_append.mp h with hpast | hlast
    · rw [ih hpast]
      cases action <;> rfl
    · rw [← List.mem_singleton.mp hlast]
      exact act_teardown _

/-! ## One slot -/

/-- An action concerns a slot: it is a request about it, or it closes the backend. -/
def Action.concerns (slot : Slot) : Action → Bool
  | .ask request => request.slot = slot
  | .teardown => true

/-- Of a history only what concerns a slot matters to the slot. -/
theorem agreeAt_ofHistory_filter (past : List Action) (slot : Slot) :
    AgreeAt slot (ofHistory past) (ofHistory (past.filter (·.concerns slot))) := by
  induction past using List.reverseRecOn with
  | nil => exact ⟨rfl, rfl⟩
  | append_singleton past action ih =>
    rw [ofHistory_concat, List.filter_append]
    cases action with
    | teardown =>
      -- Closing concerns every slot, and forgets what they have held.
      rw [show [Action.teardown].filter (·.concerns slot) = [.teardown] from rfl, ofHistory_concat,
        act_teardown, act_teardown]
      exact ⟨rfl, rfl⟩
    | ask request =>
      by_cases h : request.slot = slot
      · -- Both backends perform the request, and they have agreed on its slot.
        subst h
        rw [List.filter_singleton, Action.concerns, decide_eq_true rfl, Bool.cond_true,
          ofHistory_concat]
        exact ih.perform.2
      · rw [List.filter_singleton, Action.concerns, decide_eq_false h, Bool.cond_false,
          List.append_nil]
        refine ⟨?_, ?_⟩
        · exact (isOpen_perform request _).trans ih.isOpen
        · exact (get?_perform_of_ne _ (Ne.symm h)).trans ih.get?

/-! ## Answers -/

/-- What a backend answers that remembers a history. -/
structure Remembers (past : List Action) (memory : Memory) : Prop where
  /-- It is open. -/
  isOpen : memory.isOpen = true
  /-- A document that stands is found as it was put, and is the only one in its slot. -/
  occupied : ∀ {slot : Slot} {document : Document}, Stands past slot document →
    (perform (.find slot) memory).1 = .ok (some document) ∧
      (perform (.count slot) memory).1 = .ok (1 : Nat)
  /-- Where no document stands none is found or counted. -/
  vacant : ∀ {slot : Slot}, (∀ document, ¬ Stands past slot document) →
    (perform (.find slot) memory).1 = .ok none ∧ (perform (.count slot) memory).1 = .ok (0 : Nat)
  /-- Writing succeeds, also where there is nothing to delete. -/
  writes : ∀ (slot : Slot) (document : Document),
    (perform (.upsert slot document) memory).1 = .ok () ∧ (perform (.delete slot) memory).1 = .ok ()
  /-- A collection has as many documents as it has identities under which one stands. -/
  documentCount : ∀ collection : String, ∃ ids : Finset String,
    (∀ id, id ∈ ids ↔ ∃ document, Stands past ⟨collection, id⟩ document) ∧
      memory.documentCount collection = ids.card

/-- What a backend answers that refuses everything. -/
structure Refuses (memory : Memory) : Prop where
  /-- It is closed. -/
  isOpen : memory.isOpen = false
  /-- Every request is refused for want of a connection and changes nothing. -/
  perform : ∀ request : Request, ∃ error : StoreError, error.kind = .connectivity ∧
    perform request memory = (.error error, memory)
  /-- No collection has documents. -/
  documentCount : ∀ collection : String, memory.documentCount collection = 0

/-- A slot counts one document or none. -/
theorem count_opened (shelf : Shelf) (slot : Slot) :
    (perform (.count slot) (.opened shelf)).1 =
      .ok (if (shelf.get? slot).isSome then (1 : Nat) else (0 : Nat)) := rfl

/-- An open store remembers its past if it has the documents that stand in it. -/
theorem remembers_opened {past : List Action} {shelf : Shelf}
    (h : ∀ slot document, shelf.get? slot = some document ↔ Stands past slot document) :
    Remembers past (.opened shelf) where
  isOpen := rfl
  occupied := by
    intro slot document hstands
    have hget : shelf.get? slot = some document := (h slot document).mpr hstands
    refine ⟨congrArg Except.ok hget, ?_⟩
    rw [count_opened, hget]
    rfl
  vacant := by
    intro slot hvacant
    have hget : shelf.get? slot = none := by
      rw [Option.eq_none_iff_forall_ne_some]
      exact fun document hget => hvacant document ((h slot document).mp hget)
    refine ⟨congrArg Except.ok hget, ?_⟩
    rw [count_opened, hget]
    rfl
  writes := fun slot document => ⟨rfl, rfl⟩
  documentCount := by
    intro collection
    obtain ⟨ids, hids, hcard⟩ := Pairs.exists_length_eq (shelf.documents collection).distinct
    refine ⟨ids, fun id => ?_, hcard⟩
    rw [hids]
    -- What is found among the documents of the collection is what is found in its slots.
    exact exists_congr fun document => h ⟨collection, id⟩ document

/-- A store that is closed refuses everything. -/
theorem refuses_closed : Refuses .closed where
  isOpen := rfl
  perform := fun _ => ⟨.closed, rfl, rfl⟩
  documentCount := fun _ => rfl

/-- Until it is closed a backend remembers what it has been asked: it finds what was put into a slot
last, unless the slot has been emptied since. From its closing on it refuses everything. At any time
the answers about a slot depend on nothing that was asked about other slots. -/
theorem ofHistory_remembers (past : List Action) :
    (.teardown ∉ past → Remembers past (ofHistory past)) ∧
      (.teardown ∈ past → Refuses (ofHistory past)) ∧
        ∀ request : Request, (perform request (ofHistory past)).1 =
          (perform request (ofHistory (past.filter (·.concerns request.slot)))).1 := by
  refine ⟨fun hopen => ?_, fun hclosed => ?_, fun request => ?_⟩
  · obtain ⟨shelf, hpast, hshelf⟩ := get?_ofHistory hopen
    rw [hpast]
    exact remembers_opened hshelf
  · rw [ofHistory_eq_closed hclosed]
    exact refuses_closed
  · exact (agreeAt_ofHistory_filter past request.slot).perform.1

/-- A document replaces another, and one is deleted that has never been there. -/
theorem ofHistory_remembers_replaced :
    let long : Document := [("name", .string "ann"), ("age", .int32 7)]
    let short : Document := [("name", .string "bob")]
    let past : List Action := [.ask (.upsert ⟨"users", "1"⟩ long), .ask (.delete ⟨"users", "2"⟩),
      .ask (.upsert ⟨"users", "1"⟩ short), .ask (.upsert ⟨"posts", "1"⟩ long)]
    (perform (.find ⟨"users", "1"⟩) (ofHistory past)).1 = .ok (some short) ∧
      (perform (.count ⟨"users", "2"⟩) (ofHistory past)).1 = .ok (0 : Nat) ∧
        (ofHistory (past ++ [.teardown, .ask (.delete ⟨"posts", "1"⟩)])).isOpen = false := by
  intro long short past
  have hopen : Action.teardown ∉ past := by simp [past]
  have hstands : Stands past ⟨"users", "1"⟩ short :=
    ⟨past.take 2, past.drop 3, rfl, by simp [past, Action.Writes]⟩
  have hvacant : ∀ document, ¬ Stands past ⟨"users", "2"⟩ document := by
    rintro document ⟨before, after, h, -⟩
    have hmem : Action.ask (.upsert ⟨"users", "2"⟩ document) ∈ past := by
      rw [h]
      exact List.mem_append_right _ List.mem_cons_self
    simp [past] at hmem
  have hremembers : Remembers past (ofHistory past) := (ofHistory_remembers past).1 hopen
  have hrefuses : Refuses (ofHistory (past ++ [.teardown, .ask (.delete ⟨"posts", "1"⟩)])) :=
    (ofHistory_remembers _).2.1 (by simp)
  exact ⟨(hremembers.occupied hstands).1, (hremembers.vacant hvacant).2, hrefuses.isOpen⟩

end Memory

end KeyedStore
