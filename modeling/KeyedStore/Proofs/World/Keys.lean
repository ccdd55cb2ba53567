import KeyedStore.Proofs.Storage.StoredBytes

/-!
# Keys of worlds

The key of a world is the name of its bucket, a colon and its own name, and both names may hold
colons. So a key does not tell where the bucket ends: two worlds have one key exactly if the name of
one bucket goes on, behind a colon, into the name of the other world. Such worlds take each other's
place; all others are kept apart, among them all worlds of buckets without colons.

- `WorldArchive.Confused`: one of two worlds can be taken for the other;
- `WorldArchive.keyFor_eq_iff`: the worlds of one key;
- `WorldArchive.worlds_kept_apart`: what is loaded of two worlds that have been stored in turn.

## References

- SPEC_FULL.md, section 10.7, the keys of `WorldBinaryData`
-/

namespace KeyedStore.WorldArchive

open Memory

variable {bucket worldId otherBucket otherId : String}

/-- The name of the other bucket is that of the first one, a colon and a text, and this text and a
colon stand before the name of the other world in that of the first one. -/
def RunsInto (bucket worldId otherBucket otherId : String) : Prop :=
  ∃ text, otherBucket = bucket ++ ":" ++ text ∧ worldId = text ++ ":" ++ otherId

/-- One of two worlds can be taken for the other. -/
def Confused (bucket worldId otherBucket otherId : String) : Prop :=
  RunsInto bucket worldId otherBucket otherId ∨ RunsInto otherBucket otherId bucket worldId

/-- A key is the two names with a colon between them. -/
theorem toList_keyFor (bucket worldId : String) :
    (keyFor bucket worldId).toList = bucket.toList ++ ':' :: worldId.toList := by
  simp [keyFor]

/-- No key of a world is empty, as there is a colon in it. -/
theorem keyFor_ne_empty (bucket worldId : String) : keyFor bucket worldId ≠ "" := by
  intro h
  have hlist := congrArg String.toList h
  simp [toList_keyFor] at hlist

/-- A world runs into another one if some text stands, behind a colon, at the end of the other
bucket and, before a colon, at the beginning of its own name. -/
theorem runsInto_iff :
    RunsInto bucket worldId otherBucket otherId ↔
      ∃ text, otherBucket.toList = bucket.toList ++ ':' :: text ∧
        worldId.toList = text ++ ':' :: otherId.toList := by
  constructor
  · rintro ⟨text, rfl, rfl⟩
    exact ⟨text.toList, by simp, by simp⟩
  · rintro ⟨text, hbucket, hworld⟩
    refine ⟨String.ofList text, ?_, ?_⟩
    · exact String.toList_inj.mp (by simp [hbucket])
    · exact String.toList_inj.mp (by simp [hworld])

/-- Of two texts joined by colons the first part of one begins that of the other exactly if the
parts are the same or the longer first part goes on behind a colon. -/
theorem exists_append_iff {first rest second others : List Char} :
    (∃ more, second = first ++ more ∧ ':' :: rest = more ++ ':' :: others) ↔
      (first = second ∧ rest = others) ∨
        ∃ text, second = first ++ ':' :: text ∧ rest = text ++ ':' :: others := by
  constructor
  · rintro ⟨more, rfl, hmore⟩
    rcases List.cons_eq_append_iff.mp hmore with ⟨rfl, hsame⟩ | ⟨text, rfl, hrest⟩
    · exact .inl ⟨(List.append_nil first).symm, (List.cons.inj hsame).2.symm⟩
    · exact .inr ⟨text, rfl, hrest⟩
  · rintro (⟨rfl, rfl⟩ | ⟨text, rfl, rfl⟩)
    · exact ⟨[], (List.append_nil first).symm, rfl⟩
    · exact ⟨':' :: text, rfl, rfl⟩

/-- Two worlds have the same key exactly if they are the same or can be taken for each other. -/
theorem keyFor_eq_iff :
    keyFor bucket worldId = keyFor otherBucket otherId ↔
      (bucket = otherBucket ∧ worldId = otherId) ∨
        Confused bucket worldId otherBucket otherId := by
  -- One of the buckets begins the other one; what the other one has more begins with a colon.
  rw [← String.toList_inj, toList_keyFor, toList_keyFor, List.append_eq_append_iff,
    exists_append_iff, exists_append_iff, Confused, runsInto_iff, runsInto_iff, String.toList_inj,
    String.toList_inj, String.toList_inj, String.toList_inj]
  constructor
  · rintro ((hsame | hinto) | (hsame | hinto))
    · exact .inl hsame
    · exact .inr (.inl hinto)
    · exact .inl ⟨hsame.1.symm, hsame.2.symm⟩
    · exact .inr (.inr hinto)
  · rintro (hsame | hinto | hinto)
    · exact .inl (.inl hsame)
    · exact .inl (.inr hinto)
    · exact .inr (.inr hinto)

/-- Where a bucket goes on into the name of a world, both names hold a colon. -/
theorem RunsInto.colon_mem (h : RunsInto bucket worldId otherBucket otherId) :
    ':' ∈ otherBucket.toList ∧ ':' ∈ worldId.toList := by
  obtain ⟨text, hbucket, hworld⟩ := runsInto_iff.mp h
  rw [hbucket, hworld]
  simp

/-- Worlds of buckets without colons are not confused, and neither are worlds whose own names are
without colons. -/
theorem not_confused_of_no_colon
    (h : ':' ∉ bucket.toList ∧ ':' ∉ otherBucket.toList ∨
      ':' ∉ worldId.toList ∧ ':' ∉ otherId.toList) :
    ¬ Confused bucket worldId otherBucket otherId := by
  rintro (hinto | hinto)
  · obtain ⟨hbucket, hworld⟩ := hinto.colon_mem
    exact h.elim (fun hno => hno.2 hbucket) fun hno => hno.1 hworld
  · obtain ⟨hbucket, hworld⟩ := hinto.colon_mem
    exact h.elim (fun hno => hno.1 hbucket) fun hno => hno.2 hworld

/-! ## Two worlds in turn -/

/-- The store after two worlds have been stored in turn, where memory grants no more than `granted`
bytes at once. -/
def storedInTurn (granted : Nat) (first second : WorldArchive) (start : Service Memory) :
    Service Memory :=
  let stored := ((Facade.storeBinary granted kind first).run backend start).2
  ((Facade.storeBinary granted kind second).run backend stored).2

variable {granted : Nat} {data otherData : List UInt8} {start : Service Memory}

/-- A world of another key leaves a world that has been stored as it was. -/
theorem run_load_of_ne (otherData : List UInt8)
    (hne : keyFor bucket worldId ≠ keyFor otherBucket otherId)
    (hroom : Codec.Reservable granted data.length) (hopen : start.state.isOpen = true) :
    let both := storedInTurn granted (of bucket worldId data) (of otherBucket otherId otherData)
      start
    ((Facade.loadBinary kind (keyFor bucket worldId)).run backend both).1 =
        .done (some (of bucket worldId data)) ∧
      (Facade.loadBinary kind (keyFor bucket worldId)).reports backend both = [] := by
  intro both
  let second : Operation := .store (.binary granted kind) (of otherBucket otherId otherData)
  -- Storing the second world spares the slot of the first one.
  have hspares : ∀ stored,
      (Call.operate second).Spares ⟨"worlds", keyFor bucket worldId⟩ stored := by
    rintro stored ⟨-, hslot, -⟩
    exact hne (congrArg Slot.id (Option.some.inj hslot)).symm
  exact (run_load_stored (of bucket worldId data) (keyFor_ne_empty _ _) hroom hopen
    [.operate second]).2.2 ⟨hspares _, trivial⟩

/-- A world of the same key takes the place of a world that has been stored. -/
theorem run_load_of_eq (data : List UInt8)
    (heq : keyFor bucket worldId = keyFor otherBucket otherId)
    (hroom : Codec.Reservable granted otherData.length) (hopen : start.state.isOpen = true) :
    let both := storedInTurn granted (of bucket worldId data) (of otherBucket otherId otherData)
      start
    ((Facade.loadBinary kind (keyFor bucket worldId)).run backend both).1 =
        .done (some (of otherBucket otherId otherData)) ∧
      (Facade.loadBinary kind (keyFor bucket worldId)).reports backend both = [] := by
  intro both
  -- The second world is stored in the same slot, on a backend that is still open.
  have hstill := (Operation.isOpen_run (.store (.binary granted kind) (of bucket worldId data))
    start).trans hopen
  rw [heq]
  exact (run_load_stored (of otherBucket otherId otherData) (keyFor_ne_empty _ _) hroom
    hstill []).2.2 trivial

/-- What becomes of two different worlds that are stored in turn, where memory grants no more than
`granted` bytes at once. -/
structure KeptApart (granted : Nat) (start : Service Memory)
    (bucket worldId otherBucket otherId : String) (data otherData : List UInt8) : Prop where
  /-- They have one key exactly if they can be taken for each other. -/
  key_eq_iff : keyFor bucket worldId = keyFor otherBucket otherId ↔
    Confused bucket worldId otherBucket otherId
  /-- Otherwise the first one is loaded again with its own bytes. -/
  kept : ¬ Confused bucket worldId otherBucket otherId →
    let both := storedInTurn granted (of bucket worldId data) (of otherBucket otherId otherData)
      start
    ((Facade.loadBinary kind (keyFor bucket worldId)).run backend both).1 =
        .done (some (of bucket worldId data)) ∧
      (Facade.loadBinary kind (keyFor bucket worldId)).reports backend both = []
  /-- If they can be taken for each other, the second one is loaded in its place. -/
  replaced : Confused bucket worldId otherBucket otherId →
    let both := storedInTurn granted (of bucket worldId data) (of otherBucket otherId otherData)
      start
    ((Facade.loadBinary kind (keyFor bucket worldId)).run backend both).1 =
        .done (some (of otherBucket otherId otherData)) ∧
      (Facade.loadBinary kind (keyFor bucket worldId)).reports backend both = []
  /-- It never comes to that among buckets without colons, or among worlds whose own names are
  without colons. -/
  not_confused : ':' ∉ bucket.toList ∧ ':' ∉ otherBucket.toList ∨
    ':' ∉ worldId.toList ∧ ':' ∉ otherId.toList → ¬ Confused bucket worldId otherBucket otherId

/-- Of two different worlds that are stored in turn the first one stays as it is unless the two can
be taken for each other. -/
theorem worlds_kept_apart (granted : Nat) (bucket worldId otherBucket otherId : String)
    (data otherData : List UInt8) (hdistinct : ¬ (bucket = otherBucket ∧ worldId = otherId))
    (hroom : Codec.Reservable granted data.length)
    (hother : Codec.Reservable granted otherData.length) {start : Service Memory}
    (hopen : start.state.isOpen = true) :
    KeptApart granted start bucket worldId otherBucket otherId data otherData := by
  have hkey : keyFor bucket worldId = keyFor otherBucket otherId ↔
      Confused bucket worldId otherBucket otherId :=
    keyFor_eq_iff.trans (or_iff_right hdistinct)
  exact {
    key_eq_iff := hkey
    kept := fun hconfused => run_load_of_ne otherData (hkey.not.mpr hconfused) hroom hopen
    replaced := fun hconfused => run_load_of_eq data (hkey.mpr hconfused) hother hopen
    not_confused := not_confused_of_no_colon }

/-- The worlds `c` of the bucket `a:b` and `b:c` of the bucket `a` are taken for each other, and the
worlds `c` and `d` of the bucket `a:b` are kept apart. -/
theorem worlds_kept_apart_colon :
    let fresh : Service Memory := .on .fresh .collect
    let confused := storedInTurn 1 (of "a:b" "c" [1]) (of "a" "b:c" [2]) fresh
    let apart := storedInTurn 1 (of "a:b" "c" [1]) (of "a:b" "d" [2]) fresh
    let load := Facade.loadBinary kind (keyFor "a:b" "c")
    (load.run backend confused).1 = .done (some (of "a" "b:c" [2])) ∧
      (load.run backend apart).1 = .done (some (of "a:b" "c" [1])) := by
  intro fresh confused apart load
  have hopen : fresh.state.isOpen = true := rfl
  have hroom : Codec.Reservable 1 1 := ⟨by decide, le_rfl⟩
  have htaken := worlds_kept_apart 1 "a:b" "c" "a" "b:c" [1] [2] (by decide) hroom hroom hopen
  have hapart := worlds_kept_apart 1 "a:b" "c" "a:b" "d" [1] [2] (by decide) hroom hroom hopen
  exact ⟨(htaken.replaced (htaken.key_eq_iff.mp (by decide))).1,
    (hapart.kept (hapart.not_confused (by decide))).1⟩

/-- It is not so that different worlds never take each other's place. -/
theorem not_forall_worlds_kept_apart :
    ¬ ∀ (granted : Nat) (bucket worldId otherBucket otherId : String) (data otherData : List UInt8)
      (start : Service Memory), ¬ (bucket = otherBucket ∧ worldId = otherId) →
      Codec.Reservable granted data.length → Codec.Reservable granted otherData.length →
      start.state.isOpen = true →
      let both :=
        storedInTurn granted (of bucket worldId data) (of otherBucket otherId otherData) start
      ((Facade.loadBinary kind (keyFor bucket worldId)).run backend both).1 =
        .done (some (of bucket worldId data)) := by
  intro h
  have hroom : Codec.Reservable 1 ([2] : List UInt8).length := ⟨by decide, le_rfl⟩
  have hopen : (Service.on Memory.fresh .collect).state.isOpen = true := rfl
  have hkept := h 1 "a:b" "c" "a" "b:c" [1] [2] (.on .fresh .collect) (by decide) hroom hroom hopen
  have heq : keyFor "a:b" "c" = keyFor "a" "b:c" := by decide
  obtain ⟨hreplaced, -⟩ := run_load_of_eq [1] heq hroom hopen
  -- The one key is loaded with the bytes of the second world, which are not those of the first.
  have hsame := Option.some.inj (Outcome.done.inj (hreplaced.symm.trans hkept))
  exact absurd (congrArg WorldArchive.data hsame) (by decide)

end KeyedStore.WorldArchive
