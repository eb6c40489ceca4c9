import ConnectionCatalog.Connection.Stored

/-! # Proofs.Connection.Decoding — what a row is read as

* `Row.Holds`: a row holds a connection if each field of it is what the row's own column spells.
* `Connection.ofRow_eq_ok_iff`: a row is read as a connection just if it holds that connection;
  no column has a default.
* `Row.breaksOff`: the rows whose reading ends with a failure that is no corrupt connection;
  `Connection.isA_corruptConnection` says that there are no others.

How many levels a document may open depends on the way to its row, so all of these do.
-/

namespace ConnectionCatalog

/-! ## Columns and checks that succeed -/

theorem storedColumn_eq_ok_iff {row : Row} {column : String} {v : Value} :
    storedColumn row column = .ok v ↔ row.get? column = some v := by
  unfold storedColumn
  cases row.get? column <;> simp

namespace Checked

variable {α β : Type}

theorem both_eq_ok_iff {x : Checked α} {y : Checked β} {p : α × β} :
    both x y = .ok p ↔ x = .ok p.1 ∧ y = .ok p.2 := by
  obtain ⟨a, b⟩ := p
  cases x <;> cases y <;> simp [both]

theorem map_eq_ok_iff {f : α → β} {x : Checked α} {b : β} :
    x.map f = .ok b ↔ ∃ a, x = .ok a ∧ f a = b := by
  cases x <;> simp [Checked.map]

theorem atPath_eq_ok_iff {path : List String} {x : Except FieldFault α} {a : α} :
    atPath path x = .ok a ↔ x = .ok a := by
  cases x <;> simp [atPath]

theorem forRecord_eq_ok_iff {record : String} {x : Checked α} {a : α} :
    x.forRecord record = .ok a ↔ x = .ok a := by
  cases x <;> simp [forRecord]

end Checked

/-! ## Texts and kinds -/

/-- What a stored value is as a text: the text itself, the name of a kind, or bytes that encode
the text. -/
inductive Value.Spells : Value → String → Prop
  | text (s : String) : Spells (.text s) s
  | type (t : ConnectionType) : Spells (.type t) t.name
  | bytes {bs : List UInt8} {s : String} (h : Text.utf8Text? bs = some s) : Spells (.bytes bs) s

theorem checkText_eq_ok_iff {v : Value} {s : String} : checkText v = .ok s ↔ v.Spells s := by
  constructor
  · intro h
    cases v with
    | text t =>
      obtain rfl : t = s := Except.ok.inj h
      exact .text t
    | type t =>
      obtain rfl : t.name = s := Except.ok.inj h
      exact .type t
    | bytes bs =>
      simp only [checkText] at h
      split at h
      · rename_i t ht
        obtain rfl : t = s := Except.ok.inj h
        exact .bytes ht
      · cases h
    | _ => cases h
  · intro h
    cases h with
    | text => rfl
    | type => rfl
    | bytes h => simp [checkText, h]

/-- What names a kind: the text of exactly its name, or the kind itself. -/
inductive Value.Names : Value → ConnectionType → Prop
  | text (t : ConnectionType) : Names (.text t.name) t
  | type (t : ConnectionType) : Names (.type t) t

theorem Value.names_iff {v : Value} {t : ConnectionType} :
    v.Names t ↔ v.text?.bind ConnectionType.ofName? = some t := by
  constructor
  · intro h
    cases h <;> simp [text?]
  · intro h
    obtain ⟨s, hs, ht⟩ := Option.bind_eq_some_iff.1 h
    -- a name names one kind only, so the text is the name of `t`
    obtain rfl := ConnectionType.eq_name_of_ofName? ht
    cases v with
    | text r =>
      obtain rfl : r = t.name := Option.some.inj hs
      exact .text t
    | type u =>
      have hname : u.name = t.name := Option.some.inj hs
      have hu := ConnectionType.ofName?_name u
      rw [hname, ht] at hu
      obtain rfl := Option.some.inj hu
      exact .type t
    | _ => cases hs

theorem decodeKind_eq_ok_iff {v : Value} {t : ConnectionType} :
    decodeKind v = .ok t ↔ v.Names t := by
  rw [Value.names_iff]
  cases hv : v.text?.bind ConnectionType.ofName? with
  | none => cases v <;> simp [decodeKind, hv]
  | some u =>
    cases v with
    | text | type => simp [decodeKind, hv]
    | _ => cases hv

/-- Whether a stored kind cannot even be refused as corrupt: lists and objects are not looked
up, and some whole numbers have too many digits to be told. -/
def Value.isUntold : Value → Bool
  | .list _ | .object _ => true
  | .int n => !Spelled.isWritable n
  | _ => false

namespace Json

theorem names_putMember (k : Codes) (v : Json) (ms : List (Codes × Json)) :
    (putMember k v ms).map (·.1) =
      if k ∈ ms.map (·.1) then ms.map (·.1) else ms.map (·.1) ++ [k] := by
  induction ms with
  | nil => simp [putMember]
  | cons m ms ih =>
    unfold putMember
    by_cases hm : m.1 = k
    · simp [hm]
    · have hk : ¬k = m.1 := fun h => hm h.symm
      by_cases hmem : k ∈ ms.map (·.1)
      · simp [hm, ih, hmem]
      · simp [hm, hk, ih, hmem]

theorem nodup_putMember {ms : List (Codes × Json)} (h : (ms.map (·.1)).Nodup) (k : Codes)
    (v : Json) : ((putMember k v ms).map (·.1)).Nodup := by
  rw [names_putMember]
  split
  · exact h
  · rename_i hk
    refine List.nodup_append.2 ⟨h, by simp, ?_⟩
    intro a ha b hb
    rw [List.mem_singleton] at hb
    rintro rfl
    exact hk (hb ▸ ha)

/-- Whether the names of an object's members are distinct. -/
def HasDistinctNames : Json → Prop
  | object members => (members.map (·.1)).Nodup
  | _ => True

theorem hasDistinctNames_ofMembers (members : List (Codes × Json)) :
    (ofMembers members).HasDistinctNames := by
  -- putting members in one after the other keeps the names seen so far distinct
  have hseen : ∀ seen : List (Codes × Json), (seen.map (·.1)).Nodup →
      ((members.foldl (fun ms m => putMember m.1 m.2 ms) seen).map (·.1)).Nodup := by
    induction members with
    | nil => exact fun seen h => h
    | cons m ms ih => exact fun seen h => ih _ (nodup_putMember h m.1 m.2)
  exact hseen [] List.nodup_nil

theorem hasDistinctNames_of_readNumber {start cs rest : Codes} {negative : Bool} {j : Json}
    (h : readNumber start negative cs = .ok (j, rest)) : j.HasDistinctNames := by
  unfold readNumber at h
  extract_lets integer? at h
  cases hinteger : integer? with
  | none =>
    rw [hinteger] at h
    cases h
  | some found =>
    simp only [hinteger] at h
    -- a number is whole unless a fraction or an exponent follows; either has no names
    split at h
    · split at h
      · cases h
      · obtain ⟨rfl, -⟩ := Prod.mk.inj (Except.ok.inj h)
        trivial
    · obtain ⟨rfl, -⟩ := Prod.mk.inj (Except.ok.inj h)
      trivial

theorem hasDistinctNames_of_readWord? {cs rest : Codes} {j : Json}
    (h : readWord? cs = some (j, rest)) : j.HasDistinctNames := by
  obtain ⟨w, hw, hj⟩ := List.exists_of_findSome?_eq_some h
  obtain ⟨after, -, hpair⟩ := Option.map_eq_some_iff.1 hj
  obtain rfl : w.2 = j := congrArg Prod.fst hpair
  simp only [words, List.mem_cons, List.not_mem_nil, or_false] at hw
  rcases hw with rfl | rfl | rfl | rfl | rfl | rfl <;> trivial

theorem hasDistinctNames_of_readScalar {cs rest : Codes} {j : Json}
    (h : readScalar cs = .ok (j, rest)) : j.HasDistinctNames := by
  unfold readScalar at h
  split at h
  · split at h
    · cases h
      trivial
    · cases h
  · split at h
    · rename_i r hr
      cases h
      exact hasDistinctNames_of_readWord? hr
    · split at h <;> exact hasDistinctNames_of_readNumber h

/-- The names of an object that is read are distinct. -/
theorem hasDistinctNames_of_readValue {depth : Nat} {cs rest : Codes} {j : Json}
    (h : readValue depth cs = .ok (j, rest)) : j.HasDistinctNames := by
  unfold readValue at h
  split at h
  · cases h
  · cases h
  · exact hasDistinctNames_of_readScalar h
  · unfold readArray at h
    split at h
    · cases h
      trivial
    · split at h
      · cases h
        trivial
      · cases h
  -- only the members of an object have names, and they are made distinct there
  · unfold readObject at h
    split at h
    · cases h
      exact List.nodup_nil
    · split at h
      · cases h
        exact hasDistinctNames_ofMembers _
      · cases h
  · exact hasDistinctNames_of_readScalar h

theorem hasDistinctNames_of_read {depth : Nat} {cs : Codes} {j : Json}
    (h : read depth cs = .ok j) : j.HasDistinctNames := by
  unfold read readAll at h
  split at h
  · rename_i v hv
    cases h
    split at hv
    · cases hv
    · rename_i w rest hw
      split at hv
      · cases hv
        exact hasDistinctNames_of_readValue hw
      · cases hv
  · cases h

theorem hasDistinctNames_of_readCodes {depth : Nat} {cs : Codes} {j : Json}
    (h : readCodes depth cs = .ok j) : j.HasDistinctNames := by
  unfold readCodes at h
  split at h
  · cases h
  · exact hasDistinctNames_of_read h

end Json

theorem hasDistinctNames_of_decodeDocument {depth : Nat} {v : Value} {j : Json}
    (h : decodeDocument depth v = .ok j) : j.HasDistinctNames := by
  unfold decodeDocument at h
  -- a text is read as it is, and bytes after they were decoded
  split at h
  · split at h
    · cases h
    · split at h
      · cases h
      · rename_i hread
        cases h
        exact Json.hasDistinctNames_of_read hread
  · split at h
    · cases h
    · split at h
      · cases h
      · rename_i hread
        cases h
        exact Json.hasDistinctNames_of_readCodes hread

theorem textMembers?_eq_some_iff {members : List (Codes × Json)} {texts : List (Codes × Codes)} :
    textMembers? members = some texts ↔ members = texts.map fun t => (t.1, .text t.2) := by
  induction members generalizing texts with
  | nil => cases texts <;> simp [textMembers?]
  | cons m ms ih =>
    obtain ⟨k, v⟩ := m
    cases texts with
    | nil => cases v <;> simp [textMembers?]
    | cons t ts =>
      obtain ⟨k', v'⟩ := t
      cases v <;> simp [textMembers?, ih, and_assoc, and_left_comm]

theorem Codes.eq_ofString_of_toString? {codes : Codes} {s : String}
    (h : codes.toString? = some s) : codes = ofString s := by
  obtain ⟨cs, hcs, rfl⟩ := Option.map_eq_some_iff.1 h
  rw [ofString, String.toList_ofList]
  clear h
  induction codes generalizing cs with
  | nil =>
    obtain rfl := Option.some.inj hcs
    rfl
  | cons n ns ih =>
    unfold toChars? at hcs
    -- a code point that is no character has no text
    split at hcs
    · rename_i hn
      obtain ⟨ds, hds, rfl⟩ := Option.map_eq_some_iff.1 hcs
      have hnat : (Char.ofNat n).toNat = n := by
        rw [Char.ofNat, dif_pos hn]
        rfl
      rw [List.map_cons, ih ds hds, hnat]
    · cases hcs

theorem checkCodes_eq_ok_iff {codes : Codes} {s : String} :
    checkCodes codes = .ok s ↔ codes = Codes.ofString s := by
  constructor
  · intro h
    unfold checkCodes at h
    split at h
    · rename_i t ht
      obtain rfl := Except.ok.inj h
      exact Codes.eq_ofString_of_toString? ht
    · cases h
  · rintro rfl
    simp [checkCodes]

/-- The members of an object are texts, and as a map they are some properties. -/
structure SpellProperties (members : List (Codes × Json)) (properties : TextMap String) :
    Prop where
  texts : ∀ m ∈ members, ∃ s t, m = (Codes.ofString s, .text (Codes.ofString t))
  get?_iff : ∀ s t, properties.get? s = some t ↔
    (Codes.ofString s, Json.text (Codes.ofString t)) ∈ members

theorem SpellProperties.unique {members : List (Codes × Json)} {p q : TextMap String}
    (hp : SpellProperties members p) (hq : SpellProperties members q) : p = q := by
  refine TextMap.ext_get? fun s => Option.ext fun t => ?_
  rw [hp.get?_iff, hq.get?_iff]

theorem SpellProperties.nil : SpellProperties [] .empty where
  texts := by simp
  get?_iff := by simp

theorem SpellProperties.cons {members : List (Codes × Json)} {properties : TextMap String}
    (h : SpellProperties members properties) {s t : String}
    (hnew : Codes.ofString s ∉ members.map (·.1)) :
    SpellProperties ((Codes.ofString s, .text (Codes.ofString t)) :: members)
      (properties.insert s t) where
  texts := by
    intro m hm
    rcases List.mem_cons.1 hm with rfl | hm
    · exact ⟨s, t, rfl⟩
    · exact h.texts m hm
  get?_iff := by
    intro r u
    rw [TextMap.get?_insert, List.mem_cons]
    -- the new name was not among the others, so its text is the one in front
    by_cases hr : r = s
    · subst hr
      have hnone : (Codes.ofString r, Json.text (Codes.ofString u)) ∉ members :=
        fun hmem => hnew (List.mem_map_of_mem hmem)
      simp only [if_pos, hnone, or_false, Prod.mk.injEq, true_and, Json.text.injEq,
        Option.some.injEq]
      exact ⟨fun h => by rw [h], fun h => (Codes.ofString_injective h).symm⟩
    · have hne : Codes.ofString r ≠ Codes.ofString s := mt Codes.ofString_injective hr
      simp [hr, hne, h.get?_iff]

theorem checkProperties_of_spell {texts : List (Codes × Codes)} {properties : TextMap String}
    (hdistinct : (texts.map (·.1)).Nodup) (h : checkProperties texts = .ok properties) :
    SpellProperties (texts.map fun t => (t.1, .text t.2)) properties := by
  induction texts generalizing properties with
  | nil =>
    obtain rfl := Except.ok.inj h
    exact .nil
  | cons t ts ih =>
    -- the first name is not among the others, so its value is not overwritten by theirs
    rw [List.map_cons, List.nodup_cons] at hdistinct
    simp only [checkProperties, Checked.map_eq_ok_iff, Checked.both_eq_ok_iff,
      Checked.atPath_eq_ok_iff, checkCodes_eq_ok_iff] at h
    obtain ⟨⟨k, v, rest⟩, ⟨hk, hv, hrest⟩, rfl⟩ := h
    obtain ⟨tk, tv⟩ := t
    obtain rfl : tk = Codes.ofString k := hk
    obtain rfl : tv = Codes.ofString v := hv
    refine (ih hdistinct.2 hrest).cons ?_
    simpa [List.map_map, Function.comp_def] using hdistinct.1

/-- Members that are texts without lone surrogates pass the check of properties. -/
theorem exists_checkProperties {members : List (Codes × Json)}
    (h : ∀ m ∈ members, ∃ s t, m = (Codes.ofString s, .text (Codes.ofString t))) :
    ∃ texts properties, members = texts.map (fun t => (t.1, Json.text t.2)) ∧
      checkProperties texts = .ok properties := by
  induction members with
  | nil => exact ⟨[], .empty, rfl, rfl⟩
  | cons m ms ih =>
    obtain ⟨s, t, rfl⟩ := h m List.mem_cons_self
    obtain ⟨texts, rest, rfl, hrest⟩ := ih fun m hm => h m (List.mem_cons_of_mem _ hm)
    refine ⟨(Codes.ofString s, Codes.ofString t) :: texts, rest.insert s t, rfl, ?_⟩
    simp only [checkProperties, Checked.map_eq_ok_iff, Checked.both_eq_ok_iff,
      Checked.atPath_eq_ok_iff, checkCodes_eq_ok_iff]
    exact ⟨(s, t, rest), ⟨rfl, rfl, hrest⟩, rfl⟩

/-- The properties that a stored value holds where its document may open `depth` levels: an
object of texts without lone surrogates. -/
def Value.HoldsProperties (depth : Nat) (v : Value) (properties : TextMap String) : Prop :=
  ∃ members, decodeDocument depth v = .ok (.object members) ∧ SpellProperties members properties

theorem decodeProperties_eq_ok_iff {depth : Nat} {v : Value} {texts : List (Codes × Codes)} :
    decodeProperties depth v = .ok texts ↔
      decodeDocument depth v = .ok (.object (texts.map fun t => (t.1, .text t.2))) := by
  unfold decodeProperties
  -- only an object whose members are all texts is a map of texts
  cases decodeDocument depth v with
  | error reason =>
    split
    · simp
    · simp
    · rename_i h
      cases h
    · rename_i h
      cases h
  | ok j =>
    cases j with
    | object members =>
      have hiff := @textMembers?_eq_some_iff members texts
      cases ht : textMembers? members with
      | none => simpa [ht] using hiff
      | some ts => simpa [ht] using hiff
    | _ => simp

/-- A stored value is read as properties just if it holds them. -/
theorem holdsProperties_iff {depth : Nat} {v : Value} {properties : TextMap String} :
    v.HoldsProperties depth properties ↔
      ∃ texts, decodeProperties depth v = .ok texts ∧ checkProperties texts = .ok properties := by
  simp only [decodeProperties_eq_ok_iff]
  -- a repeated name was settled when the document was read, so the names are distinct here
  have hread : ∀ {texts : List (Codes × Codes)} {p : TextMap String},
      decodeDocument depth v = .ok (.object (texts.map fun t => (t.1, .text t.2))) →
      checkProperties texts = .ok p → SpellProperties (texts.map fun t => (t.1, .text t.2)) p := by
    intro texts p hdocument hcheck
    have hdistinct := hasDistinctNames_of_decodeDocument hdocument
    refine checkProperties_of_spell ?_ hcheck
    simpa [Json.HasDistinctNames, List.map_map, Function.comp_def] using hdistinct
  constructor
  · rintro ⟨members, hdocument, hspell⟩
    obtain ⟨texts, p, rfl, hcheck⟩ := exists_checkProperties hspell.texts
    -- the checked properties and those that are held have the same members
    obtain rfl := (hread hdocument hcheck).unique hspell
    exact ⟨texts, hdocument, hcheck⟩
  · rintro ⟨texts, hdocument, hcheck⟩
    exact ⟨_, hdocument, hread hdocument hcheck⟩

/-! ## Columns that are refused -/

/-- Whether a stored value spells a document that opens more than `depth` levels. -/
def Value.isTooDeep (depth : Nat) (v : Value) : Bool :=
  match decodeDocument depth v with
  | .error (.malformed (.tooDeep _)) => true
  | _ => false

theorem storedColumn_eq_error_iff {row : Row} {column : String} {f : Failure} :
    storedColumn row column = .error f ↔
      row.get? column = none ∧ f = .corruptRow (.missingColumn column) := by
  unfold storedColumn
  cases row.get? column <;> simp [eq_comm]

/-- Whether the log has something to say of a failure just if it is that of a corrupt
connection. -/
def Failure.IsTold (f : Failure) : Prop := (corruptDetail? f).isSome = f.isA .corruptConnection

theorem isTold_of_decodeKind {v : Value} {f : Failure} (h : decodeKind v = .error f) :
    f.IsTold := by
  unfold decodeKind at h
  split at h
  · obtain rfl := Except.error.inj h
    rfl
  · obtain rfl := Except.error.inj h
    rfl
  · split at h
    · cases h
    · obtain rfl := Except.error.inj h
      unfold kindFault
      split
      · split <;> rfl
      · rfl

theorem isTold_of_decodeProperties {depth : Nat} {v : Value} {f : Failure}
    (h : decodeProperties depth v = .error f) : f.IsTold := by
  unfold decodeProperties at h
  split at h
  · obtain rfl := Except.error.inj h
    rfl
  · obtain rfl := Except.error.inj h
    rfl
  · split at h
    · cases h
    · obtain rfl := Except.error.inj h
      rfl
  · obtain rfl := Except.error.inj h
    rfl

/-! ## Rows -/

variable [Caller]

/-- What a row holds: each field of the connection is what the row's own column is read as. -/
structure Row.Holds (way : Way) (row : Row) (c : Connection) : Prop where
  namespaceName : ∃ v, row.get? "namespace" = some v ∧ v.Spells c.place.namespaceName
  id : ∃ v, row.get? "id" = some v ∧ v.Spells c.place.id
  type : ∃ v, row.get? "type" = some v ∧ v.Names c.info.type
  name : ∃ v, row.get? "name" = some v ∧ v.Spells c.info.name
  description : ∃ v, row.get? "description" = some v ∧ v.Spells c.info.description
  properties : ∃ v, row.get? "properties" = some v ∧
    v.HoldsProperties way.levels c.info.properties
  created : ∃ v, row.get? "created" = some v ∧ checkWhole v = .ok c.created
  updated : ∃ v, row.get? "updated" = some v ∧ checkWhole v = .ok c.updated

/-- A row is read as a connection just if it holds that connection. -/
theorem Connection.ofRow_eq_ok_iff {way : Way} {row : Row} {c : Connection} :
    Connection.ofRow way row = .ok c ↔ Row.Holds way row c := by
  constructor
  · intro h
    simp only [ofRow, Except.bind_eq_ok_iff, storedColumn_eq_ok_iff] at h
    obtain ⟨namespaceName, hnamespace, id, hid, kind, hkind, type, htype, name, hname,
      description, hdescription, document, hdocument, texts, htexts, created, hcreated,
      updated, hupdated, hfields⟩ := h
    -- what is left of the reading is the check of the whole record
    split at hfields
    · rename_i d hd
      obtain rfl := Except.ok.inj hfields
      simp only [Checked.forRecord_eq_ok_iff, Checked.map_eq_ok_iff, Checked.both_eq_ok_iff,
        Checked.atPath_eq_ok_iff, checkText_eq_ok_iff] at hd
      obtain ⟨⟨n, ds, ps, ns, i, cr, up⟩, ⟨hn, hds, hps, hns, hi, hcr, hup⟩, rfl⟩ := hd
      exact
        { namespaceName := ⟨_, hnamespace, hns⟩
          id := ⟨_, hid, hi⟩
          type := ⟨_, hkind, decodeKind_eq_ok_iff.1 htype⟩
          name := ⟨_, hname, hn⟩
          description := ⟨_, hdescription, hds⟩
          properties := ⟨_, hdocument, holdsProperties_iff.2 ⟨texts, htexts, hps⟩⟩
          created := ⟨_, hcreated, hcr⟩
          updated := ⟨_, hupdated, hup⟩ }
    · cases hfields
  · intro h
    obtain ⟨namespaceName, hnamespace, hns⟩ := h.namespaceName
    obtain ⟨id, hid, hi⟩ := h.id
    obtain ⟨kind, hkind, htype⟩ := h.type
    obtain ⟨name, hname, hn⟩ := h.name
    obtain ⟨description, hdescription, hds⟩ := h.description
    obtain ⟨document, hdocument, hproperties⟩ := h.properties
    obtain ⟨texts, htexts, hps⟩ := holdsProperties_iff.1 hproperties
    obtain ⟨created, hcreated, hcr⟩ := h.created
    obtain ⟨updated, hupdated, hup⟩ := h.updated
    rw [← checkText_eq_ok_iff] at hns hi hn hds
    rw [← decodeKind_eq_ok_iff] at htype
    simp [ofRow, storedColumn, hnamespace, hid, hkind, hname, hdescription, hdocument, hcreated,
      hupdated, htype, htexts, hns, hi, hn, hds, hps, hcr, hup, bind, Except.bind, Checked.both,
      Checked.atPath, Checked.map, Checked.forRecord]

/-! ## Rows that hold no connection -/

/-- Whether the reading of a row breaks off: it comes to a kind that cannot be told, or to
properties that open too many levels. -/
def Row.breaksOff (way : Way) (row : Row) : Bool :=
  match row.get? "namespace", row.get? "id", row.get? "type" with
  | some _, some _, some kind =>
    kind.isUntold ||
      match decodeKind kind, row.get? "name", row.get? "description", row.get? "properties" with
      | .ok _, some _, some _, some document => document.isTooDeep way.levels
      | _, _, _, _ => false
  | _, _, _ => false

/-- The log has something to say of a row that is not read just if it is reported as corrupt. -/
theorem Connection.isTold_of_ofRow {way : Way} {row : Row} {f : Failure}
    (h : Connection.ofRow way row = .error f) : f.IsTold := by
  simp only [ofRow, Except.bind_eq_error_iff, storedColumn_eq_error_iff] at h
  -- one case for each column, in the order in which they are read
  rcases h with ⟨-, rfl⟩ | ⟨_, -, ⟨-, rfl⟩ | ⟨_, -, ⟨-, rfl⟩ | ⟨_, -, h | ⟨_, -, ⟨-, rfl⟩ |
    ⟨_, -, ⟨-, rfl⟩ | ⟨_, -, ⟨-, rfl⟩ | ⟨_, -, h' | ⟨_, -, ⟨-, rfl⟩ | ⟨_, -, ⟨-, rfl⟩ |
    ⟨_, -, h⟩⟩⟩⟩⟩⟩⟩⟩⟩⟩
  · rfl
  · rfl
  · rfl
  · exact isTold_of_decodeKind h
  · rfl
  · rfl
  · rfl
  · exact isTold_of_decodeProperties h'
  · rfl
  · rfl
  · split at h
    · cases h
    · obtain rfl := Except.error.inj h
      rfl

end ConnectionCatalog
