import RecordStore.Proofs.Sql.Predicate
import RecordStore.Sql.Builder

/-!
# Places and the data in them

A statement is sent as a text with places for data, and the data in a list of their own: the first
datum is for the first place, and so on.  Where a statement is put together from pieces of text that
have as many places as data each, every datum comes to stand in the place that its own piece has for
it.

* `filled` is a text with the data in its places.
* `Fills` says of a piece of text and its data that it has a place for each, wherever it stands, and
  `FillsAll.intercalate` that such pieces can be put together.
* `Predicate.fills` is the statement above, for the predicates of filters.
-/

namespace RecordStore.Sql

open Builder (placeholders)

/-- What is sent: a character of the text, or a datum in its place. -/
inductive Piece where
  | char (c : Char)
  | datum (d : Datum)

/-- A text with the data in its places, from left to right. -/
def filled : List Char → List Datum → List Piece
  | [], _ => []
  | '%' :: 's' :: rest, d :: ds => .datum d :: filled rest ds
  | c :: rest, ds => .char c :: filled rest ds

/-- The characters of a text, without data. -/
def written (s : String) : List Piece := s.toList.map .char

/-- Several pieces with a text between any two of them. -/
def separatedBy (sep : String) (ps : List (List Piece)) : List Piece := (written sep).intercalate ps

@[simp] theorem written_append (s t : String) : written (s ++ t) = written s ++ written t := by
  simp [written]

theorem written_intercalate (sep : String) (xs : List String) :
    written (String.intercalate sep xs) = separatedBy sep (xs.map written) := by
  rw [written, String.toList_intercalate, separatedBy]
  induction xs with
  | nil => rfl
  | cons x xs ih =>
    cases xs with
    | nil => simp [List.intercalate, written]
    | cons y xs => simpa [List.intercalate_cons_cons, written] using ih

/-! ## Counting places -/

variable {cs cs' rest : List Char} {ds ds' : List Datum} {ps ps' : List Piece} {m n : Nat}
  {c : Char}

/-- A character that begins no place is passed over. -/
theorem placeholders_cons (h : c = '%' → rest.head? ≠ some 's') :
    placeholders (c :: rest) = placeholders rest := by
  refine Builder.placeholders.eq_3 c rest fun tail hc htail ↦ ?_
  exact h hc (by rw [htail]; rfl)

/-- The piece of text has so many places for parameters. -/
def Counts (cs : List Char) (n : Nat) : Prop :=
  ∀ rest, placeholders (cs ++ rest) = n + placeholders rest

theorem Counts.append (h : Counts cs m) (h' : Counts cs' n) : Counts (cs ++ cs') (m + n) := by
  intro rest
  rw [List.append_assoc, h, h', Nat.add_assoc]

theorem counts_of_notMem (h : '%' ∉ cs) : Counts cs 0 := by
  intro rest
  induction cs with
  | nil => simp
  | cons c cs ih =>
    simp only [List.mem_cons, not_or] at h
    rw [List.cons_append, placeholders_cons fun hc ↦ absurd hc.symm h.1, ih h.2]

theorem counts_slot : Counts ['%', 's'] 1 := by
  intro rest
  exact (Nat.add_comm 1 _).symm

theorem head?_append_ne (hrest : rest.head? ≠ some 's') (h : cs.head? ≠ some 's') :
    (cs ++ rest).head? ≠ some 's' := by
  cases cs with
  | nil => exact hrest
  | cons x cs => exact h

/-- Two texts have the places of both, unless the second ends a place that the first begins. -/
theorem placeholders_append (hrest : rest.head? ≠ some 's') :
    placeholders (cs ++ rest) = placeholders cs + placeholders rest := by
  fun_induction placeholders cs with
  | case1 => simp
  | case2 cs ih => rw [List.cons_append, List.cons_append, placeholders, ih, Nat.add_right_comm]
  | case3 c cs hplace ih =>
    rw [← ih, List.cons_append, placeholders_cons]
    intro hc
    refine head?_append_ne hrest fun hs ↦ ?_
    obtain ⟨tail, htail⟩ := List.head?_eq_some_iff.mp hs
    exact hplace tail hc htail

theorem placeholders_le_cons (c : Char) (cs : List Char) :
    placeholders cs ≤ placeholders (c :: cs) := by
  by_cases h : c = '%' ∧ cs.head? = some 's'
  · obtain ⟨rfl, hs⟩ := h
    obtain ⟨tail, rfl⟩ := List.head?_eq_some_iff.mp hs
    have hpassed : placeholders ('s' :: tail) = placeholders tail :=
      placeholders_cons fun hc ↦ absurd hc (by decide)
    rw [hpassed, placeholders]
    exact Nat.le_succ _
  · rw [placeholders_cons fun hc hs ↦ h ⟨hc, hs⟩]

/-- A part of a text has no more places than the text. -/
theorem placeholders_mono (h : cs <:+: cs') : placeholders cs ≤ placeholders cs' := by
  obtain ⟨before, behind, rfl⟩ := h
  have hprefix : placeholders cs ≤ placeholders (cs ++ behind) := by
    fun_induction placeholders cs with
    | case1 => exact Nat.zero_le _
    | case2 cs ih => exact Nat.succ_le_succ ih
    | case3 c cs hplace ih => exact ih.trans (placeholders_le_cons c _)
  rw [List.append_assoc]
  induction before with
  | nil => exact hprefix
  | cons c before ih => exact ih.trans (placeholders_le_cons c _)

theorem placeholders_eq_zero_iff : placeholders cs = 0 ↔ ¬['%', 's'] <:+: cs := by
  constructor
  · intro hzero hplace
    have hle : 1 ≤ placeholders cs := placeholders_mono hplace
    rw [hzero] at hle
    exact absurd hle (by decide)
  · intro h
    fun_induction placeholders cs with
    | case1 => rfl
    | case2 rest ih => exact absurd ⟨[], rest, rfl⟩ h
    | case3 c rest hplace ih =>
      exact ih fun hrest ↦ h (hrest.trans (List.suffix_cons c rest).isInfix)

/-! ## Data in their places -/

theorem filled_cons (h : c = '%' → rest.head? ≠ some 's') :
    filled (c :: rest) ds = .char c :: filled rest ds := by
  refine filled.eq_3 ds c rest fun tail d ds' _ hc htail ↦ ?_
  exact h hc (by rw [htail]; rfl)

/-- Without data a text stays as it is. -/
theorem filled_nil (cs : List Char) : filled cs [] = cs.map .char := by
  induction cs with
  | nil => rfl
  | cons c cs ih => rw [filled.eq_3 [] c cs (by simp), ih, List.map_cons]

/-- As many data as places: they go into them, whatever comes behind that ends no place. -/
theorem filled_append (hcount : placeholders cs = ds.length) (hrest : rest.head? ≠ some 's') :
    filled (cs ++ rest) (ds ++ ds') = filled cs ds ++ filled rest ds' := by
  fun_induction placeholders cs generalizing ds with
  | case1 =>
    obtain rfl := List.length_eq_zero_iff.mp hcount.symm
    rfl
  | case2 cs ih =>
    obtain ⟨d, ds, rfl⟩ := List.exists_cons_of_length_eq_add_one hcount.symm
    simp only [List.cons_append, filled]
    rw [ih (Nat.succ.inj hcount)]
  | case3 c cs hplace ih =>
    have hfirst : c = '%' → cs.head? ≠ some 's' := by
      intro hc hs
      obtain ⟨tail, htail⟩ := List.head?_eq_some_iff.mp hs
      exact hplace tail hc htail
    have hboth : c = '%' → (cs ++ rest).head? ≠ some 's' :=
      fun hc ↦ head?_append_ne hrest (hfirst hc)
    rw [List.cons_append, filled_cons hboth, filled_cons hfirst, ih hcount, List.cons_append]

/-- The piece of text has a place for each of the data, and wherever it stands it is sent as these
pieces. -/
structure Fills (cs : List Char) (ds : List Datum) (ps : List Piece) : Prop where
  counts : Counts cs ds.length
  filled : ∀ rest more, filled (cs ++ rest) (ds ++ more) = ps ++ filled rest more

theorem Fills.append (h : Fills cs ds ps) (h' : Fills cs' ds' ps') :
    Fills (cs ++ cs') (ds ++ ds') (ps ++ ps') := by
  constructor
  · rw [List.length_append]
    exact h.counts.append h'.counts
  · intro rest more
    rw [List.append_assoc, List.append_assoc, h.filled, h'.filled, List.append_assoc]

/-- A whole text has as many places as data, and is sent with the data in them. -/
theorem Fills.whole (h : Fills cs ds ps) :
    placeholders cs = ds.length ∧ Sql.filled cs ds = ps := by
  constructor
  · simpa [placeholders] using h.counts []
  · simpa [Sql.filled] using h.filled [] []

/-- Text that stands for itself can be put in front. -/
theorem fills_of_notMem (h : '%' ∉ cs) : Fills cs [] (cs.map .char) := by
  refine ⟨counts_of_notMem h, fun rest more ↦ ?_⟩
  induction cs with
  | nil => rfl
  | cons c cs ih =>
    simp only [List.mem_cons, not_or] at h
    rw [List.cons_append, List.nil_append, filled_cons fun hc ↦ absurd hc.symm h.1]
    exact congrArg (.char c :: ·) (ih h.2)

theorem fills_slot (d : Datum) : Fills ['%', 's'] [d] [.datum d] :=
  ⟨counts_slot, fun _ _ ↦ rfl⟩

/-- Any text with as many places as data can be put between parentheses. -/
theorem fills_enclosed (h : placeholders cs = ds.length) :
    Fills ('(' :: cs ++ [')']) ds ([.char '('] ++ filled cs ds ++ [.char ')']) := by
  have hopening : Fills ['('] [] [.char '('] := fills_of_notMem (by decide)
  have hclosing : Fills [')'] [] [.char ')'] := fills_of_notMem (by decide)
  have hinner : Fills (cs ++ [')']) ds (filled cs ds ++ [.char ')']) := by
    constructor
    · intro rest
      rw [List.append_assoc, placeholders_append (by simp), hclosing.counts, h, List.length_nil,
        Nat.zero_add]
    · intro rest more
      rw [List.append_assoc, filled_append h (by simp), List.append_assoc]
      exact congrArg (filled cs ds ++ ·) (hclosing.filled rest more)
  simpa using hopening.append hinner

/-- The texts, each with its own data, have a place for each of them. -/
inductive FillsAll : List String → List Datum → List (List Piece) → Prop
  | nil : FillsAll [] [] []
  | cons {t : String} {ds ds' : List Datum} {ps : List Piece} {ts : List String}
    {pss : List (List Piece)} (h : Fills t.toList ds ps) (h' : FillsAll ts ds' pss) :
    FillsAll (t :: ts) (ds ++ ds') (ps :: pss)

variable {ts ts' : List String} {pss pss' : List (List Piece)}

theorem FillsAll.append (h : FillsAll ts ds pss) (h' : FillsAll ts' ds' pss') :
    FillsAll (ts ++ ts') (ds ++ ds') (pss ++ pss') := by
  induction h with
  | nil => exact h'
  | cons h _ ih =>
    rw [List.cons_append, List.cons_append, List.append_assoc]
    exact .cons h ih

theorem fillsAll_one {t : String} (h : Fills t.toList ds ps) : FillsAll [t] ds [ps] := by
  simpa using FillsAll.cons h .nil

theorem fillsAll_map {α : Type} {xs : List α} {t : α → String} {data : α → List Datum}
    {pieces : α → List Piece} (h : ∀ x ∈ xs, Fills (t x).toList (data x) (pieces x)) :
    FillsAll (xs.map t) (xs.flatMap data) (xs.map pieces) := by
  induction xs with
  | nil => exact .nil
  | cons x xs ih => exact .cons (h x List.mem_cons_self) (ih fun y hy ↦ h y (.tail _ hy))

/-- The texts can be put together, with a separator between any two of them. -/
theorem FillsAll.intercalate {sep : String} (hsep : '%' ∉ sep.toList) (h : FillsAll ts ds pss) :
    Fills (String.intercalate sep ts).toList ds (separatedBy sep pss) := by
  rw [String.toList_intercalate, separatedBy]
  induction h with
  | nil => exact fills_of_notMem (by simp)
  | cons h h' ih =>
    cases h' with
    | nil => simpa [List.intercalate] using h
    | cons =>
      have hall := (h.append (fills_of_notMem hsep)).append ih
      simpa [List.intercalate_cons_cons, written] using hall

/-! ## Texts without places -/

/-- The text has no places, and is no part of one that it stands next to. -/
def Bare (s : String) : Prop := Fills s.toList [] (written s)

variable {s t : String}

theorem bare_of_notMem (h : '%' ∉ s.toList) : Bare s := fills_of_notMem h

theorem Bare.append (h : Bare s) (h' : Bare t) : Bare (s ++ t) := by
  rw [Bare, String.toList_append, written_append]
  exact Fills.append h h'

/-- A place behind a text. -/
theorem Bare.slot (h : Bare s) (d : Datum) :
    Fills (s ++ "%s").toList [d] (written s ++ [.datum d]) := by
  rw [String.toList_append]
  exact Fills.append h (fills_slot d)

theorem bare_intercalate {sep : String} (hsep : '%' ∉ sep.toList) {xs : List String}
    (h : ∀ s ∈ xs, Bare s) : Bare (String.intercalate sep xs) := by
  have heach : FillsAll (xs.map id) (xs.flatMap fun _ ↦ []) (xs.map written) := fillsAll_map h
  have hall := heach.intercalate hsep
  have hnone : xs.flatMap (fun _ ↦ ([] : List Datum)) = [] :=
    List.flatMap_eq_nil_iff.mpr fun _ _ ↦ rfl
  rw [List.map_id, hnone, ← written_intercalate] at hall
  exact hall

/-- Names in quotes have no places. -/
theorem bare_quote {context : String} {d : Datum} (h : quote context d = .ok s) : Bare s := by
  cases d with
  | text n =>
    have hquote := quote_eq_ok.mp h
    rw [quote?] at hquote
    split at hquote
    · rename_i hplain
      have hparts : s = String.intercalate "."
          ((Text.fields '.' n.toList).map fun cs ↦ String.ofList (inQuotes cs)) := by
        rw [← Option.some.inj hquote, ← String.toList_inj, String.toList_intercalate]
        simp [Function.comp_def]
      rw [hparts]
      refine bare_intercalate (by decide) fun part hpart ↦ ?_
      obtain ⟨cs, hcs, rfl⟩ := List.mem_map.mp hpart
      have hmem : '%' ∉ cs := notMem_of_isPlain (List.all_eq_true.mp hplain cs hcs) rfl (by decide)
      exact bare_of_notMem (by simp [inQuotes, hmem])
    · cases hquote
  | _ => cases h

/-! ## Predicates -/

namespace Predicate

mutual

/-- A predicate as it is sent: every datum stands in the place of its own comparison. -/
def pieces : Predicate → List Piece
  | always => written "TRUE"
  | never => written "FALSE"
  | isNull c => written (c ++ " IS NULL")
  | isNotNull c => written (c ++ " IS NOT NULL")
  | compare c collated op d =>
    written (c ++ (if collated then " COLLATE \"C\" " else " ") ++ op.sign ++ " ") ++ [.datum d]
  | like c pattern => written (c ++ " LIKE ") ++ [.datum (.text pattern)]
  | equalsAny c ds => written (c ++ " = ANY(") ++ [.datum (.list ds)] ++ written ")"
  | conj ps => written "(" ++ separatedBy " AND " (piecesOfAll ps) ++ written ")"
  | disj ps => written "(" ++ separatedBy " OR " (piecesOfAll ps) ++ written ")"
  | negation p => written "(NOT " ++ pieces p ++ written ")"

/-- Several predicates as they are sent. -/
def piecesOfAll : List Predicate → List (List Piece)
  | [] => []
  | p :: ps => pieces p :: piecesOfAll ps

end

mutual

/-- The columns of a predicate, in their quotes. -/
def columns : Predicate → List String
  | isNull c => [c]
  | isNotNull c => [c]
  | compare c _ _ _ => [c]
  | like c _ => [c]
  | equalsAny c _ => [c]
  | conj ps => columnsOfAll ps
  | disj ps => columnsOfAll ps
  | negation p => columns p
  | _ => []

/-- The columns of several predicates. -/
def columnsOfAll : List Predicate → List String
  | [] => []
  | p :: ps => columns p ++ columnsOfAll ps

end

theorem columnsOfAll_eq_flatMap (ps : List Predicate) : columnsOfAll ps = ps.flatMap columns := by
  induction ps with
  | nil => rfl
  | cons p ps ih => rw [columnsOfAll, ih, List.flatMap_cons]

theorem piecesOfAll_eq_map (ps : List Predicate) : piecesOfAll ps = ps.map pieces := by
  induction ps with
  | nil => rfl
  | cons p ps ih => rw [piecesOfAll, ih, List.map_cons]

/-- Predicates in a row between parentheses. -/
theorem fills_group {sep : String} (hsep : '%' ∉ sep.toList) {ps : List Predicate}
    (h : ∀ p ∈ ps, Fills p.text.toList p.parameters p.pieces) :
    Fills ("(" ++ String.intercalate sep (texts ps) ++ ")").toList (parametersOfAll ps)
      (written "(" ++ separatedBy sep (piecesOfAll ps) ++ written ")") := by
  rw [texts_eq_map, parametersOfAll_eq_flatMap, piecesOfAll_eq_map, String.toList_append,
    String.toList_append]
  have hopening : Fills "(".toList [] (written "(") := fills_of_notMem (by decide)
  have hclosing : Fills ")".toList [] (written ")") := fills_of_notMem (by decide)
  have hall := (hopening.append ((fillsAll_map h).intercalate hsep)).append hclosing
  simpa using hall

mutual

/-- Whatever a predicate is made of, each of its data has the place of its own comparison. -/
theorem fills (p : Predicate) (h : ∀ c ∈ p.columns, Bare c) :
    Fills p.text.toList p.parameters p.pieces := by
  match p with
  | always => exact fills_of_notMem (by decide)
  | never => exact fills_of_notMem (by decide)
  | isNull c => exact (h c List.mem_cons_self).append (bare_of_notMem (by decide))
  | isNotNull c => exact (h c List.mem_cons_self).append (bare_of_notMem (by decide))
  | compare c collated op d =>
    have hcollate : Bare (if collated then " COLLATE \"C\" " else " ") := by
      cases collated <;> exact bare_of_notMem (by decide)
    have hsign : Bare op.sign := by cases op <;> exact bare_of_notMem (by decide)
    have hbefore := ((h c List.mem_cons_self).append hcollate).append hsign
    have hspace : Bare " " := bare_of_notMem (by decide)
    simpa [text, parameters, pieces] using (hbefore.append hspace).slot d
  | like c pattern =>
    have hword : Bare " LIKE " := bare_of_notMem (by decide)
    have hbefore := (h c List.mem_cons_self).append hword
    simpa [text, parameters, pieces] using hbefore.slot (.text pattern)
  | equalsAny c ds =>
    have hword : Bare " = ANY(" := bare_of_notMem (by decide)
    have hclosing : Bare ")" := bare_of_notMem (by decide)
    have hbefore := (h c List.mem_cons_self).append hword
    simpa [text, parameters, pieces] using Fills.append (hbefore.slot (.list ds)) hclosing
  | conj ps => exact fills_group (by decide) (fillsAll ps h)
  | disj ps => exact fills_group (by decide) (fillsAll ps h)
  | negation p =>
    have hopening : Bare "(NOT " := bare_of_notMem (by decide)
    have hclosing : Bare ")" := bare_of_notMem (by decide)
    simpa [text, parameters, pieces] using (Fills.append hopening (fills p h)).append hclosing

/-- So do the data of several predicates. -/
theorem fillsAll (ps : List Predicate) (h : ∀ c ∈ columnsOfAll ps, Bare c) :
    ∀ p ∈ ps, Fills p.text.toList p.parameters p.pieces := by
  match ps with
  | [] => exact nofun
  | p :: ps =>
    rw [columnsOfAll, List.forall_mem_append] at h
    exact List.forall_mem_cons.mpr ⟨fills p h.1, fillsAll ps h.2⟩

end

/-- Plain names have no places. -/
theorem Regular.bare {p : Predicate} (h : Regular p) : ∀ c ∈ p.columns, Bare c := by
  have hname {n : String} (hn : isPlain n.toList = true) : ∀ c ∈ [quotedName n], Bare c := by
    intro c hc
    rw [List.mem_singleton.mp hc]
    exact bare_quote (quote_plain "column" hn)
  induction h with
  | always => exact nofun
  | never => exact nofun
  | isNull hn => exact hname hn
  | isNotNull hn => exact hname hn
  | compare hn => exact hname hn
  | like hn => exact hname hn
  | equalsAny hn => exact hname hn
  | conj hne h ih =>
    rw [columns, columnsOfAll_eq_flatMap, List.forall_mem_flatMap]
    exact ih
  | disj hne h ih =>
    rw [columns, columnsOfAll_eq_flatMap, List.forall_mem_flatMap]
    exact ih
  | negation h ih => exact ih

end Predicate

end RecordStore.Sql
