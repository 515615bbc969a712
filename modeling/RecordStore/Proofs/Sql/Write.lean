import RecordStore.Proofs.Sql.Command
import RecordStore.Proofs.Sql.Statement

/-!
# What the statements of writes say

The statements that insert, update and delete rows of a table are read as what they were built
from: the columns with their values, and the condition.  In an update the parameters of the values
come before those of the condition, as the places for them do.

* `Command.read?_insert?`, `Command.read?_update?` and `Command.read?_delete?` are the three
  statements.
-/

namespace RecordStore.Sql

/-! ## Words -/

theorem fields_append {sep : Char} (cs ds : List Char) :
    Text.fields sep (cs ++ sep :: ds) = Text.fields sep cs ++ Text.fields sep ds := by
  induction cs with
  | nil => simp [Text.fields]
  | cons c cs ih =>
    rw [List.cons_append, Text.fields, Text.fields]
    split
    · rw [ih, List.cons_append]
    · rw [ih]
      cases hcs : Text.fields sep cs with
      | nil => exact absurd hcs (Text.fields_ne_nil sep cs)
      | cons p ps => rfl

theorem intercalate_fields {sep : Char} (cs : List Char) :
    [sep].intercalate (Text.fields sep cs) = cs := by
  induction cs with
  | nil => rfl
  | cons c cs ih =>
    have hne := Text.fields_ne_nil sep cs
    rw [Text.fields]
    split
    · rename_i hc
      cases hcs : Text.fields sep cs with
      | nil => exact absurd hcs hne
      | cons p ps =>
        rw [hcs] at ih
        rw [List.intercalate_cons_cons, ih, hc]
        rfl
    · cases hcs : Text.fields sep cs with
      | nil => exact absurd hcs hne
      | cons p ps =>
        rw [hcs] at ih
        cases ps with
        | nil => simpa using ih
        | cons q ps =>
          rw [List.intercalate_cons_cons] at ih ⊢
          simpa using ih

namespace Command

/-- A blank between two texts parts their words. -/
theorem words_append (a b : String) : words (a ++ " " ++ b) = words a ++ words b := by
  have hblank : (a ++ " " ++ b).toList = a.toList ++ ' ' :: b.toList := by simp
  rw [words, hblank, fields_append, List.map_append]
  rfl

theorem words_of_notMem {a : String} (h : ' ' ∉ a.toList) : words a = [a] := by
  rw [words, fields_eq_singleton h]
  simp

/-- Words are read as the text that they were found in. -/
theorem tokens?_words (text : String) (ds : List Datum) :
    tokens? (words text) ds = (Token.scan? text).bind (Token.bind? · ds) := by
  have htext : " ".intercalate (words text) = text := by
    rw [← String.toList_inj, String.toList_intercalate, words, List.map_map]
    have hid : String.toList ∘ String.ofList = id := by
      funext cs
      simp
    rw [hid, List.map_id]
    exact intercalate_fields _
  rw [tokens?, htext]

/-- A name in quotes is one word. -/
theorem words_quotedName {n : String} (h : isPlain n.toList = true) :
    words (quotedName n) = [quotedName n] := by
  have hblank : ' ' ∉ n.toList := notMem_of_isPlain h rfl (by decide)
  exact words_of_notMem (by simp [inQuotes, hblank])

end Command

/-! ## Building -/

namespace Builder

variable {b : Builder} {names : List String} {t : String}

theorem mapM_quote (context : String) {qs : List String} :
    (names.map Datum.text).mapM (quote context) = .ok qs ↔
      List.Forall₂ (fun n q ↦ quote? n = some q) names qs := by
  rw [Outcome.mapM_eq_ok, List.forall₂_map_left_iff]
  simp only [quote_eq_ok]

/-- An insert begins with the names of the table and of the columns, which have to be names. -/
theorem perform?_insertInto : perform? {} (.insertInto (.text t) (nameList names)) = .ok b ↔
    ∃ q qs, quote? t = some q ∧ List.Forall₂ (fun n q ↦ quote? n = some q) names qs ∧
      b = { kind := some .insert, table := q, insertColumns := qs } := by
  constructor
  · intro h
    cases takes_of_perform? h with | @insertInto _ _ q _ qs _ hq hcolumns hqs
    cases hcolumns
    exact ⟨q, qs, quote_eq_ok.mp hq, (mapM_quote _).mp hqs, rfl⟩
  · rintro ⟨q, qs, hq, hqs, rfl⟩
    have hcolumns := (mapM_quote "insert column").mpr hqs
    exact perform?_of_takes (.insertInto (.inl rfl) (quote_eq_ok.mpr hq) rfl hcolumns)

theorem perform?_values {ds : List Datum} (hkind : b.kind = some .insert)
    (hlength : ds.length = b.insertColumns.length) :
    b.perform? (.values (.list ds)) = .ok { b with insertParameters := ds } :=
  perform?_of_takes (.values hkind rfl hlength)

theorem build?_insert {q : String} {qs : List String} {ds : List Datum}
    (hlength : ds.length = qs.length) :
    build? { kind := some .insert, table := q, insertColumns := qs, insertParameters := ds } =
      if qs = [] then .error (.builder .insertColumns) else
        .ok ⟨"INSERT INTO " ++ q ++ " (" ++ commaSeparated qs ++ ") VALUES (" ++
          commaSeparated (qs.map fun _ ↦ "%s") ++ ")", ds⟩ := by
  by_cases h : qs = []
  · rw [h]
    rfl
  · simp [build?, buildInsert?, h, hlength]

theorem perform?_update (ht : isPlain t.toList = true) :
    perform? {} (.update (.text t)) = .ok { kind := some .update, table := quotedName t } :=
  perform?_of_takes (.update (.inl rfl) (quote_plain _ ht))

theorem perform?_deleteFrom (ht : isPlain t.toList = true) :
    perform? {} (.deleteFrom (.text t)) = .ok { kind := some .delete, table := quotedName t } :=
  perform?_of_takes (.deleteFrom (.inl rfl) (quote_plain _ ht))

theorem perform?_set {cells : Row} (hkind : b.kind = some .update)
    (h : ∀ n ∈ cells.keys, isPlain n.toList = true) :
    b.perform? (.set cells) =
      .ok { b with assignments := b.assignments ++ cells.map fun p ↦ quotedName p.1 ++ " = %s"
                   assignmentParameters := b.assignmentParameters ++ cells.map Prod.snd } := by
  refine (perform?_of_takes (.set hkind (mapM_quote_plain _ h))).trans ?_
  simp [Assoc.keys, Function.comp_def]

end Builder

variable {t : String} {cells : Row} {f : Filter} {p : Predicate}

/-- The statement that inserts a row: it has a column and a place for every cell, in order, and the
data are the parameters. -/
theorem insert?_eq_ok {b : BoundSql} : insert? t cells = .ok b ↔ cells ≠ [] ∧
    ∃ q qs, quote? t = some q ∧ List.Forall₂ (fun n q ↦ quote? n = some q) cells.keys qs ∧
      b = ⟨"INSERT INTO " ++ q ++ " (" ++ commaSeparated qs ++ ") VALUES (" ++
        commaSeparated (qs.map fun _ ↦ "%s") ++ ")", cells.map Prod.snd⟩ := by
  have hinsert : insert? t cells = (do
      let d ← Builder.perform? {} (.insertInto (.text t) (nameList cells.keys))
      let d ← d.perform? (.values (.list (cells.map Prod.snd)))
      d.build?) := by
    rw [insert?, Builder.performAll?, List.foldlM_cons]
    cases Builder.perform? {} (.insertInto (.text t) (nameList cells.keys)) with
    | error f => rfl
    | ok d =>
      rw [Outcome.ok_bind, Outcome.ok_bind, List.foldlM_cons]
      cases d.perform? (.values (.list (cells.map Prod.snd))) with
      | error f => rfl
      | ok d => rfl
  have hbuild (q : String) {qs : List String}
      (hqs : List.Forall₂ (fun n q ↦ quote? n = some q) cells.keys qs) :
      (do
        let d ← Builder.perform? { kind := some .insert, table := q, insertColumns := qs }
          (.values (.list (cells.map Prod.snd)))
        d.build?) = .ok b ↔ cells ≠ [] ∧
          b = ⟨"INSERT INTO " ++ q ++ " (" ++ commaSeparated qs ++ ") VALUES (" ++
            commaSeparated (qs.map fun _ ↦ "%s") ++ ")", cells.map Prod.snd⟩ := by
    have hlength : (cells.map Prod.snd).length = qs.length := by
      rw [← hqs.length_eq, Assoc.keys, List.length_map, List.length_map]
    have hempty : qs = [] ↔ cells = [] := by
      rw [← List.length_eq_zero_iff, ← hlength, List.length_map, List.length_eq_zero_iff]
    rw [Builder.perform?_values rfl hlength, Outcome.ok_bind, Builder.build?_insert hlength]
    split
    · rename_i hnone
      exact iff_of_false (fun h ↦ by cases h) fun h ↦ h.1 (hempty.mp hnone)
    · rename_i hsome
      have hsome : cells ≠ [] := fun h ↦ hsome (hempty.mpr h)
      constructor
      · intro h
        exact ⟨hsome, (Except.ok.inj h).symm⟩
      · rintro ⟨-, rfl⟩
        rfl
  rw [hinsert, Outcome.bind_eq_ok]
  constructor
  · rintro ⟨d, hd, h⟩
    obtain ⟨q, qs, hq, hqs, rfl⟩ := Builder.perform?_insertInto.mp hd
    obtain ⟨hne, hb⟩ := (hbuild q hqs).mp h
    exact ⟨hne, q, qs, hq, hqs, hb⟩
  · rintro ⟨hne, q, qs, hq, hqs, hb⟩
    exact ⟨_, Builder.perform?_insertInto.mpr ⟨q, qs, hq, hqs, rfl⟩, (hbuild q hqs).mpr ⟨hne, hb⟩⟩

theorem exists_quoted_iff {names : List String} :
    (∃ qs, List.Forall₂ (fun n q ↦ quote? n = some q) names qs) ↔
      ∀ n ∈ names, (quote? n).isSome = true := by
  induction names with
  | nil => simp
  | cons n names ih =>
    rw [List.forall_mem_cons, ← ih, Option.isSome_iff_exists]
    constructor
    · rintro ⟨_, h⟩
      cases h with
      | cons hq hqs => exact ⟨⟨_, hq⟩, _, hqs⟩
    · rintro ⟨⟨q, hq⟩, qs, hqs⟩
      exact ⟨q :: qs, .cons hq hqs⟩

/-- A row can be inserted if it has cells, and the table and the columns have names. -/
theorem exists_insert?_iff : (∃ b, insert? t cells = .ok b) ↔
    cells ≠ [] ∧ ∀ n ∈ t :: cells.keys, (quote? n).isSome = true := by
  rw [List.forall_mem_cons, ← exists_quoted_iff, Option.isSome_iff_exists]
  constructor
  · rintro ⟨b, hb⟩
    obtain ⟨hne, q, qs, hq, hqs, -⟩ := insert?_eq_ok.mp hb
    exact ⟨hne, ⟨q, hq⟩, qs, hqs⟩
  · rintro ⟨hne, ⟨q, hq⟩, qs, hqs⟩
    exact ⟨_, insert?_eq_ok.mpr ⟨hne, q, qs, hq, hqs, rfl⟩⟩

theorem insert?_eq (ht : isPlain t.toList = true)
    (hcells : ∀ n ∈ cells.keys, isPlain n.toList = true) (hne : cells ≠ []) : insert? t cells =
      .ok ⟨"INSERT INTO " ++ quotedName t ++ " (" ++
        commaSeparated (cells.map fun p ↦ quotedName p.1) ++ ") VALUES (" ++
        commaSeparated (cells.map fun _ ↦ "%s") ++ ")", cells.map Prod.snd⟩ := by
  have hcolumns : List.Forall₂ (fun n q ↦ quote? n = some q) cells.keys
      (cells.keys.map quotedName) := by
    rw [List.forall₂_map_right_iff, List.forall₂_same]
    exact fun n hn ↦ quote?_plain (hcells n hn)
  refine insert?_eq_ok.mpr ⟨hne, quotedName t, _, quote?_plain ht, hcolumns, ?_⟩
  simp [Assoc.keys, Function.comp_def]

/-- The statement that overwrites values. -/
theorem update?_eq (ht : isPlain t.toList = true)
    (hcells : ∀ n ∈ cells.keys, isPlain n.toList = true) (hne : cells ≠ [])
    (hp : Predicate.ofFilter? f = .ok p) (hregular : p.Regular) : update? t (some f) cells =
      .ok ⟨"UPDATE " ++ quotedName t ++ " SET " ++
          commaSeparated (cells.map fun p ↦ quotedName p.1 ++ " = %s") ++ " WHERE (" ++ p.text ++
          ")", cells.map Prod.snd ++ p.parameters⟩ := by
  rw [update?, Builder.performAll?, List.foldlM_cons, Builder.perform?_update ht,
    Outcome.ok_bind, List.foldlM_cons, Builder.perform?_set rfl hcells, Outcome.ok_bind,
    List.foldlM_nil, Outcome.pure_eq, Outcome.ok_bind, restricted?, hp, Outcome.ok_bind,
    Builder.perform?_condition hregular, Outcome.ok_bind]
  simp [Builder.build?, Builder.buildUpdate?, hne, Builder.conditionPart, Builder.spaced,
    ← String.toList_inj]

/-- The statement that removes rows. -/
theorem delete?_eq (ht : isPlain t.toList = true) (hp : Predicate.ofFilter? f = .ok p)
    (hregular : p.Regular) : delete? t (some f) =
      .ok ⟨"DELETE FROM " ++ quotedName t ++ " WHERE (" ++ p.text ++ ")", p.parameters⟩ := by
  rw [delete?, Builder.performAll?, List.foldlM_cons, Builder.perform?_deleteFrom ht,
    Outcome.ok_bind, List.foldlM_nil, Outcome.pure_eq, Outcome.ok_bind, restricted?, hp,
    Outcome.ok_bind, Builder.perform?_condition hregular, Outcome.ok_bind]
  simp [Builder.build?, Builder.buildDelete, Builder.conditionPart, Builder.spaced,
    ← String.toList_inj]

/-! ## Reading -/

namespace Command

open Token

/-- A text is read, whatever its words are, as the tokens that it stands for. -/
theorem tokens?_of_denotes {text : String} {ds : List Datum} {us : List Token}
    (h : Denotes text.toList ds us) : tokens? (words text) ds = some us := by
  rw [tokens?_words, h.tokens]

theorem denotes_quotedName {n : String} (h : isPlain n.toList = true) :
    Denotes (quotedName n).toList [] [.name n] := by
  have hread : ReadsOff (inQuotes n.toList) [.name n] := by
    simpa using readsOff_quoted (notMem_quote h)
  simpa using ReadsAs.denotes hread.readsAs (by simp)

theorem tokens?_quotedName {n : String} (h : isPlain n.toList = true) :
    tokens? [quotedName n] [] = some [.name n] := by
  rw [← words_quotedName h]
  exact tokens?_of_denotes (denotes_quotedName h)

/-- Pieces with commas between them, with their parameters. -/
theorem denotes_commas {α : Type} {xs : List α} {text : α → String} {ds : α → List Datum}
    {tokens : α → List Token} (hne : xs ≠ [])
    (h : ∀ x ∈ xs, Denotes (text x).toList (ds x) (tokens x)) :
    Denotes (commaSeparated (xs.map text)).toList (xs.flatMap ds)
      ([.comma].intercalate (xs.map tokens)) := by
  have hcomma : ReadsOff [','] [.comma] := readsOff_char rfl
  have hall := denotes_intercalate (hcomma.append readsOff_blank) (separated_cons ⟨rfl, rfl⟩)
    (by simp) (by simp)
    (by simpa using hne : xs.map (fun x ↦ ((text x).toList, ds x, tokens x)) ≠ [])
    (by simpa using h)
  simpa [commaSeparated, Function.comp_def, List.flatMap_map] using hall

/-- What stands between commas is read piece by piece. -/
theorem mapM_parts {α β : Type} {xs : List α} {tokens : α → List Token}
    {read? : List Token → Option β} {y : α → β} (hne : xs ≠ [])
    (hcomma : ∀ x, Token.comma ∉ tokens x) (hread : ∀ x, read? (tokens x) = some (y x)) :
    (Select.parts ([.comma].intercalate (xs.map tokens))).mapM read? = some (xs.map y) := by
  have hpieces : ∀ p ∈ xs.map tokens, Token.comma ∉ p := by
    intro p hp
    obtain ⟨x, -, rfl⟩ := List.mem_map.mp hp
    exact hcomma x
  rw [Select.parts_intercalate (by simpa using hne) hpieces]
  clear hne hpieces
  induction xs with
  | nil => rfl
  | cons x xs ih =>
    rw [List.map_cons, List.mapM_cons, hread, ih]
    rfl

theorem group?_eq (us : List Token) : group? (.opening :: us ++ [.closing]) = some us := by
  simp [group?]

/-- The condition of a regular predicate behind its keyword. -/
theorem exists_restriction (hregular : p.Regular) :
    ∃ us, Denotes ("WHERE (" ++ p.text ++ ")").toList p.parameters (.keyword .where_ :: us) ∧
      restriction? (.keyword .where_ :: us) = some (some p.condition) := by
  obtain ⟨is, ⟨us, hdenotes, hbegins⟩, hcompletes⟩ := hregular.reads
  have hgroup : Item.Begins (.opening :: us ++ [.closing]) (.opening :: is ++ [.closing]) :=
    (Item.begins_opening.append hbegins).append Item.begins_closing
  have hread : Condition.ofTokens? (.opening :: us ++ [.closing]) = some p.condition := by
    rw [Condition.ofTokens?, hgroup.ofTokens?, Option.bind_some,
      (Item.completes_group hcompletes).run?]
  have hclause := Item.beginsClause_of_ofTokens? hgroup.ofTokens?
  have hoptional := Select.optional_eq (k := .where_) (o := some (.opening :: us ++ [.closing]))
    (by simpa using hclause) (Select.beginsWith_nil []) (by simp) (by simp)
  refine ⟨.opening :: us ++ [.closing], ?_, ?_⟩
  · have hwhere := (Plan.denotes_group hdenotes).behind (readsOff_keyword .where_) (by simp)
    simpa [Keyword.chars] using hwhere
  · rw [Select.clauseTokens, List.append_nil] at hoptional
    rw [restriction?, hoptional]
    simp only [Select.condition?, hread, Option.map_some]

/-- The statement that removes rows is read as the one with the condition of the filter. -/
theorem read?_delete? (ht : isPlain t.toList = true) (hp : Predicate.ofFilter? f = .ok p)
    (hregular : p.Regular) : ∃ b, delete? t (some f) = .ok b ∧
      read? b.text b.parameters = some (.delete t (some p.condition)) := by
  refine ⟨_, delete?_eq ht hp hregular, ?_⟩
  obtain ⟨us, hdenotes, hrestriction⟩ := exists_restriction hregular
  have hwords : words ("DELETE FROM " ++ quotedName t ++ " WHERE (" ++ p.text ++ ")") =
      "DELETE" :: "FROM" :: quotedName t :: words ("WHERE (" ++ p.text ++ ")") := by
    have htext : "DELETE FROM " ++ quotedName t ++ " WHERE (" ++ p.text ++ ")" =
        "DELETE" ++ " " ++ ("FROM" ++ " " ++
          (quotedName t ++ " " ++ ("WHERE (" ++ p.text ++ ")"))) := by
      simp [← String.toList_inj]
    rw [htext, words_append, words_append, words_append, words_of_notMem (by decide),
      words_of_notMem (by decide), words_quotedName ht]
    rfl
  rw [read?, hwords, ofWords?, tokens?_of_denotes hdenotes, tokens?_quotedName ht]
  simp only [Option.bind_eq_bind, Option.bind_some, hrestriction]
  rfl

/-- The tokens of the assignments. -/
def assignmentTokens (cells : Row) : List Token :=
  [.comma].intercalate (cells.map fun p ↦ [.name p.1, .sign .eq, .value p.2])

theorem denotes_assignments (hcells : ∀ n ∈ cells.keys, isPlain n.toList = true)
    (hne : cells ≠ []) :
    Denotes (commaSeparated (cells.map fun p ↦ quotedName p.1 ++ " = %s")).toList
      (cells.map Prod.snd) (assignmentTokens cells) := by
  have hone (p : String × Datum) (hp : p ∈ cells) :
      Denotes (quotedName p.1 ++ " = %s").toList [p.2] [.name p.1, .sign .eq, .value p.2] := by
    have hsign : ReadsOff ([' '] ++ (Comparison.eq.sign.toList ++ [' '])) [.sign .eq] :=
      readsOff_blank.append ((readsAs_sign .eq).append_readsOff (separated_blank _) (by simp)
        readsOff_blank)
    have hvalue := (denotes_slot p.2).behind hsign (by simp)
    have hname := denotes_quotedName (hcells p.1 (List.mem_map_of_mem hp))
    have hall := hname.append (separated_blank _) (by simp) hvalue
    simpa [Comparison.sign] using hall
  have hall := denotes_commas hne hone
  rwa [← List.map_eq_flatMap] at hall

theorem beginsClause_assignmentTokens (cells : Row) :
    ∀ t ∈ assignmentTokens cells, (!t.beginsClause) = true := by
  induction cells with
  | nil => simp [assignmentTokens]
  | cons p cells ih =>
    cases cells with
    | nil => simp [assignmentTokens, Token.beginsClause]
    | cons q cells =>
      intro t ht
      rw [assignmentTokens, List.map_cons, List.map_cons, List.intercalate_cons_cons,
        List.mem_append, List.mem_append] at ht
      rcases ht with (ht | ht) | ht
      · revert t
        simp [Token.beginsClause]
      · rw [List.mem_singleton.mp ht]
        rfl
      · exact ih t ht

/-- The statement that overwrites values is read as the one with these values and the condition of
the filter. -/
theorem read?_update? (ht : isPlain t.toList = true)
    (hcells : ∀ n ∈ cells.keys, isPlain n.toList = true) (hne : cells ≠ [])
    (hp : Predicate.ofFilter? f = .ok p) (hregular : p.Regular) :
    ∃ b, update? t (some f) cells = .ok b ∧
      read? b.text b.parameters = some (.update t cells (some p.condition)) := by
  refine ⟨_, update?_eq ht hcells hne hp hregular, ?_⟩
  obtain ⟨us, hdenotes, hrestriction⟩ := exists_restriction hregular
  let assignments := commaSeparated (cells.map fun p ↦ quotedName p.1 ++ " = %s")
  let rest := assignments ++ " " ++ ("WHERE (" ++ p.text ++ ")")
  have hwords : words ("UPDATE " ++ quotedName t ++ " SET " ++ assignments ++ " WHERE (" ++
      p.text ++ ")") = "UPDATE" :: quotedName t :: "SET" :: words rest := by
    have htext : "UPDATE " ++ quotedName t ++ " SET " ++ assignments ++ " WHERE (" ++ p.text ++
        ")" = "UPDATE" ++ " " ++ (quotedName t ++ " " ++ ("SET" ++ " " ++ rest)) := by
      simp [rest, ← String.toList_inj]
    rw [htext, words_append, words_append, words_append,
      words_of_notMem (a := "UPDATE") (by decide), words_of_notMem (a := "SET") (by decide),
      words_quotedName ht]
    rfl
  have htokens : tokens? (words rest) (cells.map Prod.snd ++ p.parameters) =
      some (assignmentTokens cells ++ .keyword .where_ :: us) := by
    have hrest := (denotes_assignments hcells hne).append (separated_blank _) (by simp)
      (hdenotes.behind readsOff_blank (by simp))
    exact tokens?_of_denotes (by simpa [rest, assignments] using hrest)
  have hbefore := beginsClause_assignmentTokens cells
  have hassignments : (Select.parts (assignmentTokens cells)).mapM assignment? = some cells := by
    have hread (p : String × Datum) :
        assignment? [.name p.1, .sign .eq, .value p.2] = some (id p) := rfl
    have hparts := mapM_parts hne (by simp) hread
    rwa [List.map_id] at hparts
  have hwhere : (!Token.beginsClause (.keyword .where_)) = false := rfl
  rw [read?, hwords, ofWords?, htokens, tokens?_quotedName ht]
  simp only [Option.bind_eq_bind, Option.bind_some]
  rw [List.takeWhile_append_of_pos hbefore, List.dropWhile_append_of_pos hbefore,
    List.takeWhile_cons_of_neg (by simp [hwhere]), List.dropWhile_cons_of_neg (by simp [hwhere]),
    List.append_nil, hassignments, hrestriction]
  rfl

/-- Where quoted names stand between commas, every word has a quote. -/
theorem mem_quote_of_mem_fields {pre post : List Char} (hpre : ' ' ∉ pre) (hpost : ' ' ∉ post)
    {qs : List (List Char)} (hne : qs ≠ []) (h : ∀ q ∈ qs, ' ' ∉ q ∧ '"' ∈ q) :
    ∀ w ∈ Text.fields ' ' (pre ++ [',', ' '].intercalate qs ++ post), '"' ∈ w := by
  induction qs generalizing pre with
  | nil => exact absurd rfl hne
  | cons q qs ih =>
    obtain ⟨hblank, hquote⟩ := h q (by simp)
    cases qs with
    | nil =>
      rw [List.intercalate_singleton, fields_eq_singleton (by simp [hpre, hblank, hpost])]
      simp [hquote]
    | cons q' qs =>
      have hsplit : pre ++ [',', ' '].intercalate (q :: q' :: qs) ++ post =
          (pre ++ q ++ [',']) ++ ' ' :: ([] ++ [',', ' '].intercalate (q' :: qs) ++ post) := by
        simp [List.intercalate_cons_cons]
      intro w hw
      rw [hsplit, fields_append, fields_eq_singleton (by simp [hpre, hblank]), List.mem_append,
        List.mem_singleton] at hw
      rcases hw with rfl | hw
      · simp [hquote]
      · exact ih (by simp) (by simp) (fun r hr ↦ h r (by simp_all)) w hw

/-- The columns of a row in parentheses. -/
def columnGroup (cells : Row) : String :=
  "(" ++ commaSeparated (cells.map fun p ↦ quotedName p.1) ++ ")"

/-- Places for the values of a row in parentheses. -/
def valueGroup (cells : Row) : String :=
  "(" ++ commaSeparated (cells.map fun _ ↦ "%s") ++ ")"

theorem tokens?_columnGroup (hcells : ∀ n ∈ cells.keys, isPlain n.toList = true)
    (hne : cells ≠ []) : tokens? (words (columnGroup cells)) [] =
      some (.opening :: [.comma].intercalate (cells.map fun p ↦ [.name p.1]) ++ [.closing]) := by
  have hname (p : String × Datum) (hp : p ∈ cells) :
      Denotes (quotedName p.1).toList [] [.name p.1] :=
    denotes_quotedName (hcells p.1 (List.mem_map_of_mem hp))
  have hgroup := Plan.denotes_group (denotes_commas hne hname)
  have hnone : cells.flatMap (fun _ ↦ ([] : List Datum)) = [] := by simp
  rw [hnone] at hgroup
  exact tokens?_of_denotes (by simpa [columnGroup] using hgroup)

theorem tokens?_valueGroup (hne : cells ≠ []) :
    tokens? (words (valueGroup cells)) (cells.map Prod.snd) =
      some (.opening :: [.comma].intercalate (cells.map fun p ↦ [.value p.2]) ++ [.closing]) := by
  have hslot (p : String × Datum) (_ : p ∈ cells) :
      Denotes "%s".toList [p.2] [.value p.2] := denotes_slot p.2
  have hgroup := Plan.denotes_group (denotes_commas hne hslot)
  rw [← List.map_eq_flatMap] at hgroup
  exact tokens?_of_denotes (by simpa [valueGroup] using hgroup)

/-- The keyword that ends the columns is none of their words, since these have quotes. -/
theorem ne_values_of_mem_words (hcells : ∀ n ∈ cells.keys, isPlain n.toList = true)
    (hne : cells ≠ []) : ∀ w ∈ words (columnGroup cells), decide (w ≠ "VALUES") = true := by
  have hname : ∀ q ∈ cells.map (fun p ↦ (quotedName p.1).toList), ' ' ∉ q ∧ '"' ∈ q := by
    intro q hq
    obtain ⟨p, hp, rfl⟩ := List.mem_map.mp hq
    have hblank : ' ' ∉ p.1.toList :=
      notMem_of_isPlain (hcells p.1 (List.mem_map_of_mem hp)) rfl (by decide)
    simp [inQuotes, hblank]
  intro w hw
  obtain ⟨cs, hcs, rfl⟩ := List.mem_map.mp hw
  have hopening : ' ' ∉ ['('] := by decide
  have hclosing : ' ' ∉ [')'] := by decide
  have hquote := mem_quote_of_mem_fields hopening hclosing
    (by simpa using hne : cells.map (fun p ↦ (quotedName p.1).toList) ≠ []) hname cs
    (by simpa [columnGroup, commaSeparated, Function.comp_def] using hcs)
  rw [decide_eq_true_iff]
  intro heq
  rw [← String.toList_inj, String.toList_ofList] at heq
  rw [heq] at hquote
  revert hquote
  decide

/-- The statement that inserts a row is read as the one with these values. -/
theorem read?_insert? (ht : isPlain t.toList = true)
    (hcells : ∀ n ∈ cells.keys, isPlain n.toList = true) (hne : cells ≠ []) :
    ∃ b, insert? t cells = .ok b ∧ read? b.text b.parameters = some (.insert t cells) := by
  refine ⟨_, insert?_eq ht hcells hne, ?_⟩
  have hwords : words ("INSERT INTO " ++ quotedName t ++ " (" ++
      commaSeparated (cells.map fun p ↦ quotedName p.1) ++ ") VALUES (" ++
      commaSeparated (cells.map fun _ ↦ "%s") ++ ")") = "INSERT" :: "INTO" :: quotedName t ::
        (words (columnGroup cells) ++ "VALUES" :: words (valueGroup cells)) := by
    have htext : "INSERT INTO " ++ quotedName t ++ " (" ++
        commaSeparated (cells.map fun p ↦ quotedName p.1) ++ ") VALUES (" ++
        commaSeparated (cells.map fun _ ↦ "%s") ++ ")" =
          "INSERT" ++ " " ++ ("INTO" ++ " " ++ (quotedName t ++ " " ++
            (columnGroup cells ++ " " ++ ("VALUES" ++ " " ++ valueGroup cells)))) := by
      simp [columnGroup, valueGroup, ← String.toList_inj]
    rw [htext, words_append, words_append, words_append, words_append, words_append,
      words_of_notMem (a := "INSERT") (by decide), words_of_notMem (a := "INTO") (by decide),
      words_of_notMem (a := "VALUES") (by decide), words_quotedName ht]
    rfl
  have hother := ne_values_of_mem_words hcells hne
  rw [read?, hwords, ofWords?, List.takeWhile_append_of_pos hother,
    List.dropWhile_append_of_pos hother, List.takeWhile_cons_of_neg (by simp),
    List.dropWhile_cons_of_neg (by simp), List.append_nil, List.drop_one, List.tail_cons,
    tokens?_columnGroup hcells hne, tokens?_valueGroup hne, tokens?_quotedName ht]
  simp only [Option.bind_eq_bind, Option.bind_some, group?_eq]
  rw [mapM_parts (y := Prod.fst) hne (by simp) fun p ↦ rfl,
    mapM_parts (y := Prod.snd) hne (by simp) fun p ↦ rfl]
  have hzip : (cells.map Prod.fst).zip (cells.map Prod.snd) = cells := by
    rw [← List.unzip_fst, ← List.unzip_snd]
    exact List.zip_unzip cells
  simp only [Option.bind_some, List.length_map, if_true, hzip]
  rfl

end Command

end RecordStore.Sql
