import ShuffleWatch.Json.Session

/-!
# Structures are read back from their JSON values

A structure is written as an object whose keys are the names of its fields, in their
order, and the reader finds the values of the fields there (`Json.fields?_record`),
whichever fields are left out at the end. The reader of each type therefore undoes its
writer (`Json.Undoes`): identifiers, positions, players, events of every kind, entries of
the log, written events and actions.
-/

namespace ShuffleWatch

namespace Json

variable {members : List (Option String × Json)} {key name : String} {j : Json}

/-! ## Fields -/

/-- The reader undoes the writer: it finds every value in what that value is written as. -/
def Undoes {α : Type} (ofJson? : Json → Option α) (toJson : α → Json) : Prop :=
  ∀ a, ofJson? (toJson a) = some a

theorem unrepeated?_of_forall_ne (h : ∀ m ∈ members, m.1 ≠ some key) :
    unrepeated? members key = some none := by
  have hnone : valuesOf key members = [] := by
    rw [valuesOf, List.map_eq_nil_iff, List.filter_eq_nil_iff]
    exact fun m hm => by simpa using h m hm
  rw [unrepeated?, hnone]

/-- A member is found under its key, if there is no other. -/
theorem unrepeated?_cons_self (h : unrepeated? members key = some none) :
    unrepeated? ((some key, j) :: members) key = some (some j) := by
  have hnone : valuesOf key members = [] := by
    rw [unrepeated?] at h
    split at h
    · assumption
    all_goals cases h
  have hvalues : valuesOf key ((some key, j) :: members) = j :: valuesOf key members := by
    simp [valuesOf]
  rw [unrepeated?, hvalues, hnone]

/-- A member is not found under another key. -/
theorem unrepeated?_cons_of_ne (members : List (Option String × Json)) (j : Json)
    (h : name ≠ key) :
    unrepeated? ((some name, j) :: members) key = unrepeated? members key := by
  have hvalues : valuesOf key ((some name, j) :: members) = valuesOf key members := by
    simp [valuesOf, h]
  rw [unrepeated?, unrepeated?, hvalues]

theorem mapM_congr {α β : Type} {f g : α → Option β} {as : List α} (h : ∀ a ∈ as, f a = g a) :
    as.mapM f = as.mapM g := by
  induction as with
  | nil => rfl
  | cons a as ih =>
    obtain ⟨ha, has⟩ := List.forall_mem_cons.1 h
    rw [List.mapM_cons, List.mapM_cons, ha, ih has]

/-- The named fields are found, and those that are left out are missing. -/
theorem mapM_unrepeated? {names : List String} {values : List Json} (missing : List String)
    (hnodup : (names ++ missing).Nodup) (hlength : names.length = values.length) :
    (names ++ missing).mapM (unrepeated? ((names.zip values).map fun m => (some m.1, m.2))) =
      some (values.map some ++ missing.map fun _ => none) := by
  induction names generalizing values with
  | nil =>
    rw [List.eq_nil_of_length_eq_zero hlength.symm]
    exact List.mapM_pure
  | cons name names ih =>
    obtain ⟨value, values, rfl⟩ := List.exists_cons_of_length_eq_add_one hlength.symm
    obtain ⟨hname, hnodup⟩ := List.nodup_cons.1 hnodup
    have hfirst : unrepeated? ((names.zip values).map fun m => (some m.1, m.2)) name =
        some none := by
      refine unrepeated?_of_forall_ne fun m hm heq => hname ?_
      obtain ⟨⟨key, j⟩, hzip, rfl⟩ := List.mem_map.1 hm
      cases heq
      exact List.mem_append_left _ (List.of_mem_zip hzip).1
    -- The first member is not one of the further fields.
    have hrest := mapM_congr fun key (hkey : key ∈ names ++ missing) =>
      unrepeated?_cons_of_ne ((names.zip values).map fun m => (some m.1, m.2)) value
        (ne_of_mem_of_not_mem hkey hname).symm
    simp only [List.cons_append, List.zip_cons_cons, List.map_cons, List.mapM_cons,
      unrepeated?_cons_self hfirst, hrest, ih hnodup (Nat.succ.inj hlength)]
    rfl

/-- The values of the fields are found in the record of them, in which the last fields
    may be left out. -/
theorem fields?_record (names : List String) (values : List Json) (missing : List String)
    (least : Nat) (hnodup : (names ++ missing).Nodup) (hlength : names.length = values.length) :
    fields? (names ++ missing) least (record (names.zip values)) =
      some (values.map some ++ missing.map fun _ => none) := by
  rw [record, fields?, if_pos (by simp)]
  exact mapM_unrepeated? missing hnodup hlength

/-- The values of the fields are found in the record of all of them. -/
theorem fields?_record_all {names : List String} (values : List Json) (least : Nat)
    (hnodup : names.Nodup) (hlength : names.length = values.length) :
    fields? names least (record (names.zip values)) = some (values.map some) := by
  have hfields := fields?_record names values [] least (by rwa [List.append_nil]) hlength
  rwa [List.append_nil, List.map_nil, List.append_nil] at hfields

theorem undoes_word : Undoes word? word := fun w => by
  rw [word, word?, if_pos w.toNat_lt_size, UInt64.ofNat_toNat]

theorem undoes_text : Undoes text? text := fun _ => rfl

/-- What is optional is written as null if it is missing, and nothing else is. -/
theorem optional_orNull {α : Type} {ofJson? : Json → Option α} {toJson : α → Json}
    (h : Undoes ofJson? toJson) (hnull : ∀ a, toJson a ≠ null) (o : Option α) :
    optional ofJson? (some (orNull toJson o)) = some o := by
  cases o with
  | none => rfl
  | some a =>
    rw [orNull, optional.eq_3 _ _ (hnull a), h a]
    rfl

end Json

open Json (Undoes fields? fields?_record fields?_record_all required)

/-! ## The types -/

theorem Role.undoes_toJson : Undoes ofJson? toJson := ofName?_name

theorem GameId.undoes_toJson : Undoes ofJson? toJson := fun g => by
  rw [ofJson?, toJson, Json.undoes_word g.val]
  rfl

theorem Address.undoes_toJson : Undoes ofJson? toJson := fun a => by
  rw [ofJson?, toJson, Json.undoes_text, Option.bind_some, render, String.toList_ofList, unmarked?,
    spaced?_digits]

theorem Position.undoes_toJson : Undoes ofJson? toJson := fun p => by
  have hfields : fields? ["block", "log_index"] 2 p.toJson =
      some [some (.word p.block), some (.word p.index)] :=
    fields?_record_all [.word p.block, .word p.index] 2 (by decide) rfl
  simp [ofJson?, hfields, required, Json.undoes_word p.block, Json.undoes_word p.index]

theorem Players.undoes_toJson : Undoes ofJson? toJson := fun ps => by
  have hfields : fields? ["creator", "joiner"] 2 ps.toJson =
      some [some ps.creator.toJson, some ps.joiner.toJson] :=
    fields?_record_all [ps.creator.toJson, ps.joiner.toJson] 2 (by decide) rfl
  simp [ofJson?, hfields, required, Address.undoes_toJson ps.creator,
    Address.undoes_toJson ps.joiner]

namespace Event

/-- An event that has to name somebody is found in its content. -/
theorem named?_content {k : EventKind} (hk : k ≠ .rematch) (g : GameId) (a : Address) :
    named? k (.record [("game_id", g.toJson), (addressField k, a.toJson)]) = some (g, a) := by
  have hnodup : ["game_id", addressField k].Nodup := by
    cases k <;> decide
  have hfields : fields? ["game_id", addressField k] 2
      (.record [("game_id", g.toJson), (addressField k, a.toJson)]) =
        some [some g.toJson, some a.toJson] :=
    fields?_record_all [g.toJson, a.toJson] 2 hnodup rfl
  simp [named?, hfields, required, GameId.undoes_toJson g, Address.undoes_toJson a]

/-- The content of an event is that of an event of its kind. -/
theorem ofContent?_content (e : Event) : ofContent? (.record e.content) e.kind = some e := by
  cases e with
  | created g a => simp [ofContent?, kind, content, named?_content]
  | joined g a => simp [ofContent?, kind, content, named?_content]
  | shuffled g a => simp [ofContent?, kind, content, named?_content]
  -- A winner may be missing, and is written as null then.
  | ended g w =>
    have hfields : fields? ["game_id", addressField .ended] 2 (.record (ended g w).content) =
        some [some g.toJson, some (.orNull Address.toJson w)] :=
      fields?_record_all [g.toJson, .orNull Address.toJson w] 2 (by decide) rfl
    have hwinner : Json.optional Address.ofJson? (some (.orNull Address.toJson w)) = some w :=
      Json.optional_orNull Address.undoes_toJson (fun _ => Json.noConfusion) w
    simp [ofContent?, kind, hfields, required, GameId.undoes_toJson g, hwinner]
  | rematch g =>
    have hfields : fields? ["game_id"] 1 (.record (rematch g).content) = some [some g.toJson] :=
      fields?_record_all [g.toJson] 1 (by decide) rfl
    simp [ofContent?, kind, hfields, required, GameId.undoes_toJson g]

theorem undoes_toJson : Undoes ofJson? toJson := fun e => by
  have halternative : e.toJson.alternative? = some (e.kind.name, .record e.content) := rfl
  simp [ofJson?, halternative, EventKind.ofName?_name, ofContent?_content]

end Event

theorem Entry.undoes_toJson : Undoes ofJson? toJson := fun e => by
  have hfields : fields? ["position", "event"] 2 e.toJson =
      some [some e.position.toJson, some e.event.toJson] :=
    fields?_record_all [e.position.toJson, e.event.toJson] 2 (by decide) rfl
  simp [ofJson?, hfields, required, Position.undoes_toJson e.position,
    Event.undoes_toJson e.event]

theorem WrittenEvent.undoes_toJson : Undoes ofJson? toJson := fun w => by
  obtain ⟨name, gameId, address⟩ := w
  -- An address that is missing is left out, and looked for nevertheless.
  cases address with
  | none =>
    have hfields : fields? ["name", "game_id", "address"] 2 (toJson ⟨name, gameId, none⟩) =
        some [some (.text name), some (.text gameId), none] :=
      fields?_record ["name", "game_id"] [.text name, .text gameId] ["address"] 2 (by decide) rfl
    simp [ofJson?, hfields, required, Json.optional, Json.undoes_text name,
      Json.undoes_text gameId]
  | some address =>
    have hfields : fields? ["name", "game_id", "address"] 2
        (toJson ⟨name, gameId, some address⟩) =
          some [some (.text name), some (.text gameId), some (.text address)] :=
      fields?_record_all [.text name, .text gameId, .text address] 2 (by decide) rfl
    have haddress : Json.optional Json.text? (some (.text address)) = some (some address) :=
      Json.optional_orNull Json.undoes_text (fun _ => Json.noConfusion) (some address)
    simp [ofJson?, hfields, required, haddress, Json.undoes_text name, Json.undoes_text gameId]

theorem Action.undoes_toJson : Undoes ofJson? toJson := fun a => by
  obtain ⟨game, role⟩ := a
  have halternative : (toJson (shuffle game role)).alternative? =
      some ("Shuffle", .record [("game_id", game.toJson), ("role", role.toJson)]) := rfl
  have hfields : fields? ["game_id", "role"] 2
      (.record [("game_id", game.toJson), ("role", role.toJson)]) =
        some [some game.toJson, some role.toJson] :=
    fields?_record_all [game.toJson, role.toJson] 2 (by decide) rfl
  simp [ofJson?, halternative, hfields, required, GameId.undoes_toJson game,
    Role.undoes_toJson role]

end ShuffleWatch
