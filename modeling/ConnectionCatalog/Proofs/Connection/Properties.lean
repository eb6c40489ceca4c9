import ConnectionCatalog.Proofs.Connection.Codec
import ConnectionCatalog.Proofs.Entries
import ConnectionCatalog.Proofs.Json.Ascii

/-! # Proofs.Connection.Properties — stored properties have one text

Properties are put in one after the other, in any order, and a name may be given a value more than
once.  What is stored does not show any of that: it is a function of the last values alone, and one
that can be undone.

* `encodeProperties_injective`: properties that are told apart are stored as different texts.
* `stored_properties_canonical`: the stored text is the same just if the last values are; it is
  printable ASCII, and its names increase.
-/

namespace ConnectionCatalog

/-- Texts are ordered by their code points. -/
theorem Codes.ofString_lt_of_lt {s t : String} (h : s < t) : ofString s < ofString t := by
  have hlist : s.toList < t.toList := h
  exact List.map_lt (fun _ _ hc => hc) hlist

/-- Properties that differ are stored as different texts. -/
theorem encodeProperties_injective {p q : TextMap String}
    (h : encodeProperties p = encodeProperties q) : p = q := by
  have hp := decodeProperties_encodeProperties Nat.one_pos p
  rw [h, decodeProperties_encodeProperties Nat.one_pos] at hp
  have hchecked := checkProperties_storedTexts p
  rw [← Except.ok.inj hp, checkProperties_storedTexts] at hchecked
  exact (Except.ok.inj hchecked).symm

theorem plain_encodeProperties (p : TextMap String) : Text.Plain (encodeProperties p).toList :=
  Json.plain_toText Json.spaced_isPlain _

/-- Properties that were put in one after the other are stored as the same text just if they end up
with the same values.  The text is printable ASCII; it is the document of an object whose names
increase, code point by code point, and that has for each name the last value given to it; and it
is read back as this object wherever a level may be opened. -/
theorem stored_properties_canonical (given other : List (String × String)) :
    (encodeProperties (.ofList given) = encodeProperties (.ofList other) ↔
      ∀ name, lastValue? name given = lastValue? name other) ∧
    Text.Plain (encodeProperties (.ofList given)).toList ∧
    ∃ entries : List (String × String),
      (∀ name v, (name, v) ∈ entries ↔ lastValue? name given = some v) ∧
      (entries.map fun e => Codes.ofString e.1).Pairwise (· < ·) ∧
      let members := entries.map fun e => (Codes.ofString e.1, Json.text (Codes.ofString e.2))
      encodeProperties (.ofList given) = (Json.object members).toText Json.spaced ∧
      ∀ depth, Json.readString (depth + 1) (encodeProperties (.ofList given)) =
        .ok (.object members) := by
  refine ⟨?_, plain_encodeProperties _, (TextMap.ofList given).entries, ?_, ?_, rfl,
    fun depth => readString_encodeProperties depth _⟩
  · rw [← TextMap.ofList_eq_iff]
    exact ⟨encodeProperties_injective, congrArg encodeProperties⟩
  · intro name v
    rw [TextMap.mem_entries_iff, TextMap.get?_ofList]
  · rw [List.pairwise_map]
    exact (TextMap.ofList given).sorted.imp Codes.ofString_lt_of_lt

end ConnectionCatalog
