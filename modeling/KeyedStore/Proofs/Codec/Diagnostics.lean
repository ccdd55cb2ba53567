import KeyedStore.Catalogue
import KeyedStore.Proofs.Codec.Decoding
import KeyedStore.Proofs.Codec.Encoding
import KeyedStore.Proofs.Entity.Faults
import Mathlib.Data.Set.Finite.Lattice
import Mathlib.Order.Bounds.Basic

/-!
# Messages about documents that are refused

A message about a document quotes the beginning of its text, cut at the limit that the options set,
and names the part of it that is of the wrong kind. Numbers, lists and objects take a bounded place
in a message, but a text is named in full. So a message is bounded by the longest text of the
document, and for the kinds that want something else than a text in one of their fields by nothing
else.

- `DecodeFault.exists_length_description_le`: how long the description of a fault can be;
- `Codec.eq_or_occurs_of_occurs_pairsRead`: the texts that an entity is read from;
- `Codec.Bounded`, `Codec.BoundedByTexts`: messages with a bound;
- `Codec.CandidKind.messages`, `Codec.QuotesText.messages`: which of them hold of a kind;
- `decode_messages_bounded_iff`: the kinds of fixed fields.

## References

- SPEC_FULL.md, section 4.2, step 4 of loading: the diagnostics are capped; section 10.4,
  `diagnostic_limit`
-/

namespace KeyedStore

/-! ## Lengths of texts -/

namespace Text

/-- A number of 64 bits, signed or not, has at most twenty digits and a sign. -/
theorem length_decimal_le {n : Int} (h : -2 ^ 63 ≤ n ∧ n < 2 ^ 64) : (decimal n).length ≤ 21 := by
  have hdigits : (digits n.natAbs).length ≤ 20 := length_digits_le (by decide) (by omega)
  rw [decimal, String.length_ofList, signed]
  split_ifs
  · rw [List.length_cons]
    omega
  · omega

/-- A number below a power of sixteen takes no more hexadecimal digits than the power says. -/
theorem length_hexDigits_le {n width : Nat} (hwidth : 0 < width) (h : n < 16 ^ width) :
    (hexDigits n).length ≤ width := by
  induction n using hexDigits.induct generalizing width with
  | case1 n hn =>
    rw [hexDigits, if_pos hn]
    exact hwidth
  | case2 n hn ih =>
    -- The last digit takes one place, and the others are those of the quotient.
    obtain ⟨shorter, rfl⟩ : ∃ shorter, width = shorter + 1 := ⟨width - 1, by omega⟩
    have hquotient : n / 16 < 16 ^ shorter := by
      rw [pow_succ] at h
      omega
    have hshorter : 0 < shorter := by
      by_contra hzero
      obtain rfl : shorter = 0 := by omega
      omega
    have hlength := ih hshorter hquotient
    rw [hexDigits, if_neg hn, List.length_append, List.length_singleton]
    omega

/-- A quoted character takes from one to ten places. -/
theorem length_quotedChar (c : Char) :
    1 ≤ (quotedChar c).length ∧ (quotedChar c).length ≤ 10 := by
  -- A code point has at most six digits, with four characters around them.
  have hcode : (hexDigits c.toNat).length ≤ 6 := by
    apply length_hexDigits_le (by decide)
    have hvalid : c.toNat.isValidChar := c.valid
    rcases hvalid with hlow | ⟨-, hhigh⟩ <;> omega
  unfold quotedChar
  split
  case h_8 =>
    split_ifs
    · simp only [List.length_append, List.length_cons, List.length_nil]
      omega
    · simp
  all_goals simp

/-- A quoted text is no shorter than the text, and takes at most ten places for each of its
characters beside the quotes. -/
theorem length_quoted (text : String) :
    text.length ≤ (quoted text).length ∧ (quoted text).length ≤ 10 * text.length + 2 := by
  have hchars : ∀ chars : List Char, chars.length ≤ (chars.flatMap quotedChar).length ∧
      (chars.flatMap quotedChar).length ≤ 10 * chars.length := by
    intro chars
    induction chars with
    | nil => simp
    | cons c chars ih =>
      have hfirst := length_quotedChar c
      rw [List.flatMap_cons, List.length_append, List.length_cons]
      omega
  have hlength := hchars text.toList
  rw [String.length_toList] at hlength
  simp only [quoted, String.length_ofList, List.length_append, List.length_singleton]
  omega

end Text

namespace Binary64

/-- There are not many doubles, so there is a longest text of one. -/
theorem exists_length_text_le : ∃ bound, ∀ x : Binary64, x.text.length ≤ bound := by
  have hfinite : Finite Binary64 :=
    Finite.of_injective (fun x => x.bits.toFin) fun x y h => by
      cases x
      cases y
      simpa [UInt64.toFin_inj] using h
  obtain ⟨bound, hbound⟩ := (Set.finite_range fun x : Binary64 => x.text.length).bddAbove
  exact ⟨bound, fun x => hbound ⟨x, rfl⟩⟩

end Binary64

/-! ## Lengths of messages -/

/-- The number of characters that the libraries can add to a message in words of their own. -/
def FaultWords.length (words : FaultWords) : Nat :=
  words.badInstant.length + words.place.length

namespace DecodeFault

/-- A value without texts is named in a bounded number of characters, and a text adds at most ten
for each of its own. -/
theorem exists_length_foundText_le : ∃ bound, ∀ (found : Json) (longest : Nat),
    (∀ n, found = .whole n → -2 ^ 63 ≤ n ∧ n < 2 ^ 64) →
    (∀ text, found = .string text → text.length ≤ longest) →
    (foundText found).length ≤ bound + 10 * longest := by
  obtain ⟨widest, hwidest⟩ := Binary64.exists_length_text_le
  -- The words of every sort of value fit in forty characters, a number of 64 bits included.
  refine ⟨widest + 40, fun found longest hnumber htext => ?_⟩
  cases found with
  | whole n =>
    have hdecimal := Text.length_decimal_le (hnumber n rfl)
    have hquotes : "integer `".length + "`".length = 10 := by decide
    show ("integer `" ++ Text.decimal n ++ "`").length ≤ _
    simp only [String.length_append]
    omega
  | float x =>
    have hfloat := hwidest x
    have hquotes : "floating point `".length + "`".length = 17 := by decide
    show ("floating point `" ++ String.ofList x.text ++ "`").length ≤ _
    simp only [String.length_append, String.length_ofList]
    omega
  | string text =>
    have hquoted := (Text.length_quoted text).2
    have hlongest := htext text rfl
    have hname : "string ".length = 7 := by decide
    show ("string " ++ Text.quoted text).length ≤ _
    simp only [String.length_append]
    omega
  | bool value =>
    have hname : (foundText (.bool value)).length ≤ 15 := by cases value <;> decide
    omega
  | null =>
    have hname : (foundText .null).length = 4 := by decide
    omega
  | array items =>
    have hname : "sequence".length = 8 := by decide
    show "sequence".length ≤ _
    omega
  | object pairs =>
    have hname : "map".length = 3 := by decide
    show "map".length ≤ _
    omega

/-- The description of a fault that concerns a value is bounded by the longest of the texts in it,
and bounded at all if no text is quoted, beside what the libraries say in words of their own. -/
theorem exists_length_description_le : ∃ bound, ∀ (words : FaultWords) (quotes : Prop)
    (value : Json) (longest : Nat) (fault : DecodeFault),
    (∀ n, (Json.whole n).Occurs value → -2 ^ 63 ≤ n ∧ n < 2 ^ 64) →
    (quotes → ∀ text, (Json.string text).Occurs value → text.length ≤ longest) →
    fault.Concerns quotes value →
    (fault.description words).length ≤ bound + words.badInstant.length + 10 * longest := by
  obtain ⟨bound, hbound⟩ := exists_length_foundText_le
  refine ⟨bound + 160, ?_⟩
  intro words quotes value longest fault hnumbers htexts h
  cases h with
  | @missingField name hname =>
    have hwords : "missing field `".length + "`".length = 16 := by decide
    show ("missing field `" ++ name ++ "`").length ≤ _
    simp only [String.length_append]
    omega
  | @wrongKind found wanted hoccurs hwanted hquotes =>
    have hfound := hbound found longest (fun n hn => hnumbers n (hn ▸ hoccurs)) fun text htext =>
      htexts (hquotes text htext) text (htext ▸ hoccurs)
    have hwords : "invalid type: ".length + ", expected ".length = 25 := by decide
    show ("invalid type: " ++ foundText found ++ ", expected " ++ wanted).length ≤ _
    simp only [String.length_append]
    omega
  | @outOfRange n wanted hoccurs hwanted =>
    have hdecimal := Text.length_decimal_le (hnumbers n hoccurs)
    have hwords : "invalid value: integer `".length + "`, expected ".length = 36 := by decide
    show ("invalid value: integer `" ++ Text.decimal n ++ "`, expected " ++ wanted).length ≤ _
    simp only [String.length_append]
    omega
  | badInstant =>
    show words.badInstant.length ≤ _
    omega

/-- A message is its description and the place of the fault. -/
theorem length_message (words : FaultWords) (fault : DecodeFault) :
    (fault.message words).length = (fault.description words).length + words.place.length :=
  String.length_append _ _

/-- A text that is quoted is quoted in full. -/
theorem length_le_message_wrongKind (words : FaultWords) (text wanted : String) :
    text.length ≤ (message words (.wrongKind (.string text) wanted)).length := by
  have hquoted := (Text.length_quoted text).1
  show _ ≤ ("invalid type: " ++ ("string " ++ Text.quoted text) ++ ", expected " ++ wanted ++
    words.place).length
  simp only [String.length_append]
  omega

end DecodeFault

/-! ## Texts of a document -/

namespace Json

/-- The items of a list that is read again are its items, each read again. -/
theorem mem_rereadItems_iff {item : Json} {items : List Json} :
    item ∈ rereadItems items ↔ ∃ source ∈ items, source.reread = item := by
  induction items with
  | nil => simp [rereadItems]
  | cons first items ih => simp [rereadItems, ih, eq_comm]

/-- The pairs of an object that is read again are its pairs, each read again. -/
theorem mem_rereadPairs_iff {pair : String × Json} {pairs : List (String × Json)} :
    pair ∈ rereadPairs pairs ↔ ∃ source ∈ pairs, (source.1, source.2.reread) = pair := by
  induction pairs with
  | nil => simp [rereadPairs]
  | cons first pairs ih => simp [rereadPairs, ih, eq_comm]

/-- What stands in a value that is read again stood in the value, as it was written. -/
theorem Occurs.exists_source {inner value : Json} (h : inner.Occurs value.reread) :
    ∃ source : Json, source.Occurs value ∧ source.reread = inner := by
  -- The induction goes into the value that has been read, whose containers are those of the written
  -- one; so the value is generalized first.
  generalize hread : value.reread = read at h
  induction h generalizing value with
  | here => exact ⟨value, .here, hread⟩
  | @item items item hmem _ ih =>
    cases value with
    | array sources =>
      obtain rfl := Json.array.inj hread
      obtain ⟨source, hsource, rfl⟩ := mem_rereadItems_iff.mp hmem
      obtain ⟨found, hfound, hinner⟩ := ih rfl
      exact ⟨found, .item hsource hfound, hinner⟩
    | _ => exact absurd hread (by simp [reread])
  | @field pairs pair hmem _ ih =>
    cases value with
    | object sources =>
      obtain rfl := Json.object.inj hread
      obtain ⟨source, hsource, rfl⟩ := mem_rereadPairs_iff.mp hmem
      obtain ⟨found, hfound, hinner⟩ := ih rfl
      exact ⟨found, .field hsource hfound, hinner⟩
    | _ => exact absurd hread (by simp [reread])

end Json

namespace Codec

open Json

variable {α : Type} {kind : StructuredKind α} {metadata : Metadata} {document : Document}
  {key : String}

/-- The pairs that are shown of a document are its own, each shown. -/
theorem mem_pairsToJson_iff {pair : String × Json} {document : Document} :
    pair ∈ Bson.pairsToJson document ↔ ∃ stored ∈ document, (stored.1, stored.2.toJson) = pair := by
  induction document with
  | nil => simp [Bson.pairsToJson]
  | cons first document ih => simp [Bson.pairsToJson, ih, eq_comm]

/-- What stands among the pairs that an entity is read from stood in the document with the key under
its own name. -/
theorem exists_source_of_occurs_pairsRead {inner : Json}
    (h : inner.Occurs (.object (pairsRead metadata document key))) :
    ∃ source : Json, source.Occurs (relocate metadata document key).toJson ∧
      source.reread = inner := by
  have hread : (relocate metadata document key).toJson.reread =
      .object (pairsRead metadata document key) := rfl
  rw [← hread] at h
  exact h.exists_source

/-- A text that an entity is read from is the key or stands in the document. -/
theorem eq_or_occurs_of_occurs_pairsRead {text : String}
    (h : (Json.string text).Occurs (.object (pairsRead metadata document key))) :
    text = key ∨ (Json.string text).Occurs document.toJson := by
  obtain ⟨source, hsource, hread⟩ := exists_source_of_occurs_pairsRead h
  obtain rfl : source = .string text := by cases source <;> simp_all [reread]
  cases hsource with
  | @field _ pair hmem hoccurs =>
    obtain ⟨stored, hstored, rfl⟩ := mem_pairsToJson_iff.mp hmem
    rcases Pairs.eq_or_mem_of_mem_insert hstored with rfl | hrest
    · -- The value of the key field is the key and nothing else.
      cases hoccurs
      exact .inl rfl
    · exact .inr (.field (mem_pairsToJson_iff.mpr ⟨stored, Pairs.mem_of_mem_erase hrest, rfl⟩)
        hoccurs)

/-- Every number that an entity is read from has 64 bits. -/
theorem range_of_occurs_pairsRead {n : Int}
    (h : (Json.whole n).Occurs (.object (pairsRead metadata document key))) :
    -2 ^ 63 ≤ n ∧ n < 2 ^ 64 := by
  obtain ⟨source, hsource, hread⟩ := exists_source_of_occurs_pairsRead h
  obtain rfl : source = .whole n := by cases source <;> simp_all [reread]
  have hwritable : (relocate metadata document key).toJson.Writable :=
    Bson.writable_pairsToJson _
  exact hwritable.of_occurs hsource

/-! ## Messages of the decoder -/

/-- An error of the decoder is about a fault, and quotes no more of the document than its options
allow. -/
theorem exists_fault_of_decode {options : CodecOptions} {error : StoreError}
    (hresolve : kind.declaration.resolve = .ok metadata)
    (h : decode kind options document key = .error error) :
    ∃ fault excerpt, kind.read (.object (pairsRead metadata document key)) = .error fault ∧
      error = .undecodable metadata.typeName metadata.collection key fault excerpt ∧
      excerpt.length ≤ options.diagnosticLimit := by
  simp only [decode, hresolve, bind, Except.bind, readText_intermediate] at h
  split at h
  · exact absurd h (by simp)
  · rename_i fault hfault
    exact ⟨fault, _, hfault, (Except.error.inj h).symm, Text.length_excerpt_le _ _⟩

/-- The message of such an error is as long as its parts. -/
theorem length_message_undecodable (words : ErrorWords) (type collection key excerpt : String)
    (fault : DecodeFault) :
    ((StoreError.undecodable type collection key fault excerpt).message words).length =
      type.length + collection.length + key.length + (fault.message words.toFaultWords).length +
        excerpt.length + 71 := by
  show ("Serialization error: " ++ ("failed to decode " ++ type ++ " (collection=" ++ collection ++
    ", key=" ++ key ++ "): " ++ fault.message words.toFaultWords ++ "; payload: " ++
    excerpt)).length = _
  have hwords : "Serialization error: ".length + "failed to decode ".length +
      " (collection=".length + ", key=".length + "): ".length + "; payload: ".length = 71 := by
    decide
  simp only [String.length_append]
  omega

/-- Every fault of an object that a kind does not read concerns the object. -/
def CandidKind (quotes : Prop) (kind : StructuredKind α) : Prop :=
  ∀ pairs fault, kind.read (.object pairs) = .error fault → fault.Concerns quotes (.object pairs)

/-- The messages of a candid kind are bounded by the longest text of the document, and bounded at
all if no text is quoted. -/
theorem exists_length_message_le (hresolve : kind.declaration.resolve = .ok metadata)
    {quotes : Prop} (hcandid : CandidKind quotes kind) (key : String) (limit : Nat) :
    ∃ bound, ∀ (words : ErrorWords) (options : CodecOptions) (document : Document)
      (error : StoreError) (longest : Nat), options.diagnosticLimit = limit →
      (quotes → ∀ text, (Json.string text).Occurs document.toJson → text.length ≤ longest) →
      decode kind options document key = .error error →
      (error.message words).length ≤ bound + words.toFaultWords.length + 10 * longest := by
  obtain ⟨bound, hbound⟩ := DecodeFault.exists_length_description_le
  refine ⟨metadata.typeName.length + metadata.collection.length + key.length + bound +
    10 * key.length + limit + 71, ?_⟩
  intro words options document error longest hlimit htexts hdecode
  obtain ⟨fault, excerpt, hfault, rfl, hexcerpt⟩ := exists_fault_of_decode hresolve hdecode
  -- The names, the key and the excerpt are bounded by themselves; the wording of the fault is left,
  -- which may name the key as well, since it has been put among the pairs.
  have hall : quotes → ∀ text,
      (Json.string text).Occurs (.object (pairsRead metadata document key)) →
      text.length ≤ key.length + longest := by
    intro hquotes text hoccurs
    rcases eq_or_occurs_of_occurs_pairsRead hoccurs with rfl | hstands
    · exact Nat.le_add_right _ _
    · exact (htexts hquotes text hstands).trans (Nat.le_add_left _ _)
  have hdescription := hbound words.toFaultWords quotes _ (key.length + longest) fault
    (fun _ => range_of_occurs_pairsRead) hall (hcandid _ fault hfault)
  rw [length_message_undecodable, DecodeFault.length_message, FaultWords.length]
  omega

/-! ## Bounded messages -/

/-- The messages with which documents are refused are bounded by a number that does not depend on
the document, beside what the libraries add in words of their own. -/
def Bounded (kind : StructuredKind α) (key : String) (limit : Nat) : Prop :=
  ∃ bound, ∀ (words : ErrorWords) (options : CodecOptions) (document : Document)
    (error : StoreError), options.diagnosticLimit = limit →
    decode kind options document key = .error error → error.kind = .serialization →
    (error.message words).length ≤ bound + words.toFaultWords.length

/-- The messages with which documents are refused are bounded by a number that does not depend on
the document, beside ten times the length of the longest text in it and what the libraries add. -/
def BoundedByTexts (kind : StructuredKind α) (key : String) (limit : Nat) : Prop :=
  ∃ bound, ∀ (words : ErrorWords) (options : CodecOptions) (document : Document)
    (error : StoreError) (longest : Nat), options.diagnosticLimit = limit →
    decode kind options document key = .error error → error.kind = .serialization →
    (∀ text, (Json.string text).Occurs document.toJson → text.length ≤ longest) →
    (error.message words).length ≤ bound + words.toFaultWords.length + 10 * longest

/-- The messages of a kind that never quotes a text are bounded. -/
theorem CandidKind.bounded (h : CandidKind False kind)
    (hresolve : kind.declaration.resolve = .ok metadata) (key : String) (limit : Nat) :
    Bounded kind key limit := by
  obtain ⟨bound, hbound⟩ := exists_length_message_le hresolve h key limit
  refine ⟨bound, fun words options document error hlimit hdecode _ => ?_⟩
  exact hbound words options document error 0 hlimit (fun hquotes => hquotes.elim) hdecode

/-- The messages of a kind that may quote a text are bounded by the longest text of the document. -/
theorem CandidKind.boundedByTexts (h : CandidKind True kind)
    (hresolve : kind.declaration.resolve = .ok metadata) (key : String) (limit : Nat) :
    BoundedByTexts kind key limit := by
  obtain ⟨bound, hbound⟩ := exists_length_message_le hresolve h key limit
  refine ⟨bound, fun words options document error longest hlimit hdecode _ htexts => ?_⟩
  exact hbound words options document error longest hlimit (fun _ => htexts) hdecode

/-- A kind with a field that quotes the text it finds where something else is wanted. -/
structure QuotesText (kind : StructuredKind α) (metadata : Metadata) (field wanted : String) :
    Prop where
  /-- The declaration keeps the rules. -/
  resolves : kind.declaration.resolve = .ok metadata
  /-- The field is not the key. -/
  field_ne_key : field ≠ metadata.keyField
  /-- The field is not the identity. -/
  field_ne_identity : field ≠ identityField
  /-- A text in the field is quoted, whatever comes after it. -/
  quotes : ∀ (text : String) (pairs : List (String × Json)),
    kind.read (.object ((field, .string text) :: pairs)) = .error (.wrongKind (.string text) wanted)

/-- The messages of such a kind are not bounded, whatever the key and the options. -/
theorem QuotesText.not_bounded {field wanted : String} (h : QuotesText kind metadata field wanted)
    (key : String) (limit : Nat) : ¬ Bounded kind key limit := by
  rintro ⟨bound, hbound⟩
  -- One character more than the bound is too many.
  obtain ⟨text, hlength⟩ : ∃ text : String, text.length = bound + 1 :=
    ⟨String.ofList (List.replicate (bound + 1) 'x'), by simp⟩
  -- The field stands in front of the key, so the fault of its text is the first one.
  have hpairs : pairsRead metadata [(field, .string text)] key =
      [(field, .string text), (metadata.keyField, .string key)] := by
    simp [pairsRead, relocate, Pairs.erase, Pairs.insert, h.field_ne_key, h.field_ne_identity,
      Bson.pairsToJson, Bson.toJson, rereadPairs, reread]
  have hread := h.quotes text [(metadata.keyField, .string key)]
  rw [← hpairs] at hread
  obtain ⟨excerpt, hdecode⟩ := decode_of_fault ⟨true, limit⟩ h.resolves hread
  -- Libraries that add nothing are enough.
  let silent : ErrorWords := default
  have hmessage := hbound silent _ _ _ rfl hdecode rfl
  have hquoted := DecodeFault.length_le_message_wrongKind silent.toFaultWords text wanted
  have hsilent : silent.toFaultWords.length = 0 := rfl
  rw [length_message_undecodable] at hmessage
  omega

/-- A kind without a field that quotes texts has bounded messages. -/
theorem CandidKind.messages (h : ∀ quotes, CandidKind quotes kind)
    (hresolve : kind.declaration.resolve = .ok metadata) (key : String) (limit : Nat)
    {textless : Prop} (htextless : textless) :
    BoundedByTexts kind key limit ∧ (Bounded kind key limit ↔ textless) :=
  ⟨(h True).boundedByTexts hresolve key limit,
    iff_of_true ((h False).bounded hresolve key limit) htextless⟩

/-- A kind with such a field has messages that only the texts bound. -/
theorem QuotesText.messages {field wanted : String} (h : QuotesText kind metadata field wanted)
    (hcandid : CandidKind True kind) (key : String) (limit : Nat) {textless : Prop}
    (htextless : ¬ textless) :
    BoundedByTexts kind key limit ∧ (Bounded kind key limit ↔ textless) :=
  ⟨hcandid.boundedByTexts h.resolves key limit, iff_of_false (h.not_bounded key limit) htextless⟩

end Codec

/-! ## The kinds of fixed fields -/

open Codec Record Shape

/-- A fault of statistics may quote a text where a map of counters is wanted. -/
theorem PlayerStats.candid : CandidKind True kind := fun _ _ =>
  (((candid_of PlayerStats.mk).field candid_text (by decide) none).field candid_int64.mapOf
    (by decide) (some .empty)).read

/-- A fault of player levels may quote a text where a number is wanted. -/
theorem PlayerLevel.candid : CandidKind True kind := fun _ _ =>
  (((candid_of PlayerLevel.mk).field candid_text (by decide) none).field candid_int64
    (by decide) (some 0)).read

/-- A fault of profiles quotes no text, as all their fields are texts or instants. -/
theorem Profile.candid {quotes : Prop} : CandidKind quotes kind := fun _ _ =>
  (((((candid_of Profile.mk).field candid_text.optional (by decide) (some none)).field candid_text
    (by decide) none).field candid_instant (by decide) none).field candid_text.optional
    (by decide) (some none)).read

/-- A fault of profiles of the second form may quote a text where a number, a flag or a list is
wanted. -/
theorem ProfileV2.candid : CandidKind True kind := fun _ _ =>
  (((((((candid_of ProfileV2.mk).field candid_text (by decide) none).field candid_text
    (by decide) none).field candid_uint8 (by decide) none).field candid_int32 (by decide)
    none).field candid_flag (by decide) none).field candid_text.listOf (by decide) (some [])).read

/-- A fault of planets may quote a text where a list is wanted. -/
theorem Planet.candid : CandidKind True kind := fun _ _ =>
  ((((((candid_of Planet.mk).field candid_text.optional (by decide) (some none)).field candid_text
    (by decide) none).field candid_instant (by decide) none).field candid_text.optional
    (by decide) (some none)).field candid_text.listOf (by decide) none).read

/-- A fault of shadowing entities may quote a text where a number is wanted. -/
theorem Shadowing.candid : CandidKind True kind := fun _ _ =>
  ((((((candid_of Shadowing.mk).field candid_text (by decide) none).field candid_text
    (by decide) none).field candid_int64 (by decide) none).field candid_int64 (by decide)
    none).field candid_int64 (by decide) none).read

/-- A fault of entities with a misdeclared key quotes no text. -/
theorem MisdeclaredKey.candid {quotes : Prop} : CandidKind quotes kind := fun _ _ =>
  (((candid_of MisdeclaredKey.mk).field candid_text (by decide) none).field candid_text
    (by decide) none).read

/-- A fault of tables of scores may quote a text where a map of scores is wanted. -/
theorem Scoreboard.candid : CandidKind True kind := fun _ _ =>
  ((((candid_of Scoreboard.mk).field candid_text (by decide) none).field
    candid_int64.optional.mapOf (by decide) none).field candid_text.optional (by decide)
    (some none)).read

theorem PlayerStats.quotesText :
    QuotesText kind ⟨"PlayerStatsData", "player_stats", "playerId"⟩ "stats" "a map" :=
  ⟨rfl, by decide, by decide, fun _ _ => rfl⟩

theorem PlayerLevel.quotesText :
    QuotesText kind ⟨"PlayerLevelData", "player_levels", "playerId"⟩ "experience" "i64" :=
  ⟨rfl, by decide, by decide, fun _ _ => rfl⟩

theorem ProfileV2.quotesText :
    QuotesText kind ⟨"ProfileV2", "profiles", "key"⟩ "level" "u8" :=
  ⟨rfl, by decide, by decide, fun _ _ => rfl⟩

theorem Planet.quotesText :
    QuotesText kind ⟨"Planet", "planets", "planet_id"⟩ "citizens" "a sequence" :=
  ⟨rfl, by decide, by decide, fun _ _ => rfl⟩

theorem Shadowing.quotesText : QuotesText kind ⟨"Shadowing", "shadowing", "id"⟩ "a" "i64" :=
  ⟨rfl, by decide, by decide, fun _ _ => rfl⟩

theorem Scoreboard.quotesText :
    QuotesText kind ⟨"Scoreboard", "scoreboards", "board_id"⟩ "scores" "a map" :=
  ⟨rfl, by decide, by decide, fun _ _ => rfl⟩

/-- For every kind of fixed fields, every key and every limit, the messages with which documents are
refused are bounded beside ten times the longest text of the document. They are bounded at all for
exactly two kinds: those whose fields are texts and instants. -/
theorem decode_messages_bounded_iff {entry : Catalogue.SomeStructured}
    (h : entry ∈ Catalogue.structured) (key : String) (limit : Nat) :
    BoundedByTexts entry.kind key limit ∧
      (Bounded entry.kind key limit ↔
        entry.kind.declaration.typeName ∈ ["Profile", "MisdeclaredKey"]) := by
  simp only [Catalogue.structured, List.mem_cons, List.not_mem_nil, or_false] at h
  rcases h with rfl | rfl | rfl | rfl | rfl | rfl | rfl | rfl
  · exact PlayerStats.quotesText.messages PlayerStats.candid key limit (by decide)
  · exact PlayerLevel.quotesText.messages PlayerLevel.candid key limit (by decide)
  · exact CandidKind.messages (fun _ => Profile.candid) rfl key limit (by decide)
  · exact ProfileV2.quotesText.messages ProfileV2.candid key limit (by decide)
  · exact Planet.quotesText.messages Planet.candid key limit (by decide)
  · exact Shadowing.quotesText.messages Shadowing.candid key limit (by decide)
  · exact CandidKind.messages (fun _ => MisdeclaredKey.candid) rfl key limit (by decide)
  · exact Scoreboard.quotesText.messages Scoreboard.candid key limit (by decide)

/-- Messages about profiles are bounded, those about levels of players are not. -/
theorem decode_messages_bounded_iff_profile :
    Bounded Profile.kind "p" 40 ∧ ¬ Bounded PlayerLevel.kind "p" 40 := by
  have hprofile : ⟨Profile, Profile.kind⟩ ∈ Catalogue.structured := by simp [Catalogue.structured]
  have hlevel : ⟨PlayerLevel, PlayerLevel.kind⟩ ∈ Catalogue.structured := by
    simp [Catalogue.structured]
  constructor
  · exact (decode_messages_bounded_iff hprofile "p" 40).2.mpr (by decide)
  · exact (decode_messages_bounded_iff hlevel "p" 40).2.not.mpr (by decide)

/-- It is not true that the messages of all kinds are bounded. -/
theorem not_forall_decode_messages_bounded :
    ¬ ∀ entry ∈ Catalogue.structured, ∀ (key : String) (limit : Nat),
      Bounded entry.kind key limit := by
  intro h
  have hlevel : ⟨PlayerLevel, PlayerLevel.kind⟩ ∈ Catalogue.structured := by
    simp [Catalogue.structured]
  exact PlayerLevel.quotesText.not_bounded "p" 40 (h _ hlevel "p" 40)

end KeyedStore
