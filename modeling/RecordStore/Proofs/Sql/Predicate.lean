import RecordStore.Proofs.Sql.Reading

/-!
# What predicates say

The text of a predicate, with its parameters in the places for them, is read as the condition that
the predicate was made to be: the parentheses are where the precedence of the operators needs them,
and the parameters stand in the order of their places.

* `Predicate.condition` is the condition that a predicate stands for.
* `Predicate.Regular.read?_text` is the theorem above.
* `quote_plain` is the quoted form of a plain name, `unquoted` takes the quotes away.
-/

namespace RecordStore.Sql

/-! ## Quoted names -/

/-- A name in its quotes. -/
def quotedName (n : String) : String := String.ofList (inQuotes n.toList)

/-- What stands between the quotes. -/
def unquoted (c : String) : String := String.ofList (c.toList.drop 1).dropLast

@[simp] theorem toList_quotedName (n : String) : (quotedName n).toList = inQuotes n.toList := by
  simp [quotedName]

@[simp] theorem unquoted_quotedName (n : String) : unquoted (quotedName n) = n := by
  simp [unquoted, inQuotes]

/-- The characters of a plain name are those of a word, but for a line break at the end. -/
theorem isPlain_char {cs : List Char} (h : isPlain cs = true) {c : Char} (hc : c ∈ cs) :
    isNameChar c = true ∨ c = '\n' := by
  have hbody : ∀ c ∈ dropFinalBreak cs, isNameChar c = true := by
    unfold isPlain at h
    cases hd : dropFinalBreak cs with
    | nil => simp
    | cons d ds =>
      rw [hd] at h
      simp only [Bool.and_eq_true, List.all_eq_true] at h
      intro c hc
      rcases List.mem_cons.mp hc with rfl | hc
      · have hstart := h.1
        simp only [isNameStart, isNameChar, Bool.or_eq_true, Char.isAlphanum] at hstart ⊢
        tauto
      · exact h.2 c hc
  by_cases hlast : cs.getLast? = some '\n'
  · have hsplit : cs = cs.dropLast ++ ['\n'] := (List.dropLast_append_getLast? _ hlast).symm
    rw [hsplit, List.mem_append, List.mem_singleton] at hc
    rcases hc with hc | hc
    · exact .inl (hbody c (by rwa [dropFinalBreak, if_pos hlast]))
    · exact .inr hc
  · exact .inl (hbody c (by rwa [dropFinalBreak, if_neg hlast]))

theorem notMem_of_isPlain {cs : List Char} (h : isPlain cs = true) {c : Char}
    (hc : isNameChar c = false) (hn : c ≠ '\n') : c ∉ cs := by
  intro hmem
  rcases isPlain_char h hmem with hname | hbreak
  · rw [hc] at hname
    cases hname
  · exact hn hbreak

theorem notMem_quote {n : String} (hn : isPlain n.toList = true) : '"' ∉ n.toList :=
  notMem_of_isPlain hn rfl (by decide)

theorem fields_eq_singleton {sep : Char} {cs : List Char} (h : sep ∉ cs) :
    Text.fields sep cs = [cs] := by
  induction cs with
  | nil => rfl
  | cons c cs ih =>
    simp only [List.mem_cons, not_or] at h
    rw [Text.fields, if_neg (Ne.symm h.1), ih h.2]

/-- A plain name is put into quotes. -/
theorem quote?_plain {n : String} (h : isPlain n.toList = true) :
    quote? n = some (quotedName n) := by
  have hdot : '.' ∉ n.toList := notMem_of_isPlain h rfl (by decide)
  simp [quote?, fields_eq_singleton hdot, h, quotedName]

theorem quote_eq_ok {context n q : String} :
    quote context (.text n) = .ok q ↔ quote? n = some q := by
  rw [quote]
  cases quote? n with
  | none => exact iff_of_false nofun nofun
  | some q' =>
    constructor
    · intro h
      exact congrArg some (Except.ok.inj h)
    · intro h
      exact congrArg Except.ok (Option.some.inj h)

theorem quote_plain (context : String) {n : String} (h : isPlain n.toList = true) :
    quote context (.text n) = .ok (quotedName n) :=
  quote_eq_ok.mpr (quote?_plain h)

/-! ## Text as items -/

namespace Item

open Token

/-- Wherever the tokens stand at the front, the items do. -/
def Begins (us : List Token) (is : List Item) : Prop :=
  ∀ rest, ofTokens? (us ++ rest) = (ofTokens? rest).map (is ++ ·)

/-- The piece of text, with these parameters, is read as these items. -/
def Yields (cs : List Char) (ds : List Datum) (is : List Item) : Prop :=
  ∃ us, Denotes cs ds us ∧ Begins us is

variable {cs cs' : List Char} {ds ds' : List Datum} {is is' : List Item} {ts us us' : List Token}

theorem begins_opening : Begins [.opening] [opening] := fun _ ↦ rfl

theorem begins_closing : Begins [.closing] [closing] := fun _ ↦ rfl

theorem begins_not : Begins [.keyword .not] [not] := fun _ ↦ rfl

theorem begins_and : Begins [.keyword .and] [and] := fun _ ↦ rfl

theorem begins_or : Begins [.keyword .or] [or] := fun _ ↦ rfl

theorem Begins.append (h : Begins us is) (h' : Begins us' is') :
    Begins (us ++ us') (is ++ is') := by
  intro rest
  rw [List.append_assoc, h, h', Option.map_map]
  congr 1
  funext js
  simp

theorem Begins.ofTokens? (h : Begins us is) : ofTokens? us = some is := by
  simpa [Item.ofTokens?] using h []

theorem Yields.append (h : Yields cs ds is) (hs : Separated cs') (hne : cs' ≠ [])
    (h' : Yields cs' ds' is') : Yields (cs ++ cs') (ds ++ ds') (is ++ is') := by
  obtain ⟨us, hdenotes, hi⟩ := h
  obtain ⟨us', hdenotes', hi'⟩ := h'
  exact ⟨us ++ us', hdenotes.append hs hne hdenotes', hi.append hi'⟩

/-- Something without places may stand in front. -/
theorem Yields.behind (hr : ReadsOff cs ts) (hslot : slot ∉ ts) (hi : Begins ts is)
    (h' : Yields cs' ds' is') : Yields (cs ++ cs') ds' (is ++ is') := by
  obtain ⟨us', hdenotes', hi'⟩ := h'
  exact ⟨ts ++ us', hdenotes'.behind hr hslot, hi.append hi'⟩

theorem Yields.read? {s : String} {c : Condition} (h : Yields s.toList ds is)
    (hc : Completes is c) : Condition.read? s ds = some c := by
  obtain ⟨us, hdenotes, hi⟩ := h
  rw [Condition.read?, hdenotes.tokens, Option.bind_some, Condition.ofTokens?, hi.ofTokens?,
    Option.bind_some, hc.run?]

/-- A test of a column. -/
theorem yields_column {n : String} (hn : '"' ∉ n.toList) {i : Item} (hr : ReadsAs cs ts)
    (hb : Binds ts ds us) (hi : Begins (.name n :: us) [i]) :
    Yields (inQuotes n.toList ++ cs) ds [i] := by
  have hname : ReadsOff (inQuotes n.toList) [.name n] := by
    simpa using readsOff_quoted hn
  exact ⟨_, Denotes.behind ⟨_, hr, hb⟩ hname (by simp), hi⟩

end Item

namespace Condition

/-- Conditions put together from left to right; `empty` where there are none. -/
def joined (empty : Condition) (join : Condition → Condition → Condition) :
    List Condition → Condition
  | [] => empty
  | c :: cs => cs.foldl join c

end Condition

namespace Predicate

mutual

/-- The condition that a predicate stands for. -/
def condition : Predicate → Condition
  | always => .constant true
  | never => .constant false
  | isNull c => .isNull (unquoted c)
  | isNotNull c => .isNotNull (unquoted c)
  | compare c collated op d => .compare (unquoted c) collated op d
  | like c pattern => .like (unquoted c) (.text pattern)
  | equalsAny c ds => .equalsAny (unquoted c) (.list ds)
  | conj ps => .joined (.constant true) .and (conditions ps)
  | disj ps => .joined (.constant false) .or (conditions ps)
  | negation p => .not (condition p)

/-- The conditions that several predicates stand for. -/
def conditions : List Predicate → List Condition
  | [] => []
  | p :: ps => condition p :: conditions ps

end

theorem conditions_eq_map (ps : List Predicate) : conditions ps = ps.map condition := by
  induction ps with
  | nil => rfl
  | cons p ps ih => rw [conditions, ih, List.map_cons]

theorem texts_eq_map (ps : List Predicate) : texts ps = ps.map text := by
  induction ps with
  | nil => rfl
  | cons p ps ih => rw [texts, ih, List.map_cons]

theorem parametersOfAll_eq_flatMap (ps : List Predicate) :
    parametersOfAll ps = ps.flatMap parameters := by
  induction ps with
  | nil => rfl
  | cons p ps ih => rw [parametersOfAll, ih, List.flatMap_cons]

/-- The columns are plain names in quotes, and nothing is put together from no parts. -/
inductive Regular : Predicate → Prop
  | always : Regular always
  | never : Regular never
  | isNull {n : String} (hn : isPlain n.toList = true) : Regular (isNull (quotedName n))
  | isNotNull {n : String} (hn : isPlain n.toList = true) : Regular (isNotNull (quotedName n))
  | compare {n : String} (hn : isPlain n.toList = true) (collated : Bool) (op : Comparison)
    (d : Datum) : Regular (compare (quotedName n) collated op d)
  | like {n : String} (hn : isPlain n.toList = true) (pattern : String) :
    Regular (like (quotedName n) pattern)
  | equalsAny {n : String} (hn : isPlain n.toList = true) (ds : List Datum) :
    Regular (equalsAny (quotedName n) ds)
  | conj {ps : List Predicate} (hne : ps ≠ []) (h : ∀ p ∈ ps, Regular p) : Regular (conj ps)
  | disj {ps : List Predicate} (hne : ps ≠ []) (h : ∀ p ∈ ps, Regular p) : Regular (disj ps)
  | negation {p : Predicate} (h : Regular p) : Regular (negation p)

open Item Token

/-- The predicate, with its parameters, is read as items that come to its condition. -/
def Reads (p : Predicate) (is : List Item) : Prop :=
  Yields p.text.toList p.parameters is ∧ Completes is p.condition

theorem reads_column {p : Predicate} {n : String} {cs : List Char} {ts us : List Token}
    (hn : '"' ∉ n.toList) (htext : p.text.toList = inQuotes n.toList ++ cs) (hr : ReadsAs cs ts)
    (hb : Binds ts p.parameters us) (hi : Begins (.name n :: us) [.atom p.condition]) :
    ∃ is, Reads p is := by
  refine ⟨[.atom p.condition], ?_, completes_atom _⟩
  rw [htext]
  exact yields_column hn hr hb hi

variable {ps : List Predicate}

/-- Predicates with a word between them, read as a chain. -/
theorem yields_intercalate {k : Keyword} {op : Item} (hop : Begins [.keyword k] [op])
    {items : Predicate → List Item} (p : Predicate) (ps : List Predicate)
    (h : ∀ q ∈ p :: ps, Yields q.text.toList q.parameters (items q)) :
    Yields ((spacedWords [k] ++ [' ']).intercalate ((p :: ps).map (·.text.toList)))
      ((p :: ps).flatMap parameters) (items p ++ chain op (ps.map items)) := by
  induction ps generalizing p with
  | nil => simpa [chain] using h p (by simp)
  | cons q ps ih =>
    have hp := h p (by simp)
    have hq := ih q fun r hr ↦ h r (by simp_all)
    have hword := hq.behind (readsOff_spacedWords [k]) (by simp) hop
    have hsep : Separated (spacedWords [k] ++ [' '] ++
        (spacedWords [k] ++ [' ']).intercalate ((q :: ps).map (·.text.toList))) := by
      simpa [spacedWords] using separated_blank _
    have hall := hp.append hsep (by simp [spacedWords]) hword
    rw [List.map_cons, List.map_cons, List.intercalate_cons_cons, List.append_assoc]
    rw [List.map_cons] at hall
    simpa [chain] using hall

/-- What stands in parentheses. -/
theorem yields_group {cs : List Char} {ds : List Datum} {is : List Item} (h : Yields cs ds is) :
    Yields ('(' :: cs ++ [')']) ds (.opening :: is ++ [.closing]) := by
  have hclosing : Yields [')'] [] [.closing] :=
    ⟨_, (readsOff_char rfl).readsAs.denotes (by simp), begins_closing⟩
  have hinner := h.append (separated_cons ⟨rfl, rfl⟩) (by simp) hclosing
  have hopening : ReadsOff ['('] [.opening] := readsOff_char rfl
  simpa using hinner.behind hopening (by simp) begins_opening

/-- Several predicates, joined by a word in parentheses, are read as their conditions, joined. -/
theorem reads_group {whole : Predicate} {k : Keyword} {op : Item} {empty : Condition}
    {join : Condition → Condition → Condition} (hop : Begins [.keyword k] [op])
    (htext : whole.text.toList =
      '(' :: (spacedWords [k] ++ [' ']).intercalate (ps.map (·.text.toList)) ++ [')'])
    (hparameters : whole.parameters = ps.flatMap parameters)
    (hcondition : whole.condition = .joined empty join (ps.map condition))
    (hcompletes : ∀ {is : List Item} {c : Condition} {parts : List (List Item × Condition)},
      Completes is c → (∀ p ∈ parts, Completes p.1 p.2) →
        Completes (.opening :: is ++ chain op (parts.map Prod.fst) ++ [.closing])
          (parts.foldl (fun a p ↦ join a p.2) c))
    (hne : ps ≠ []) (h : ∀ p ∈ ps, ∃ is, Reads p is) : ∃ is, Reads whole is := by
  obtain ⟨p, ps, rfl⟩ := List.exists_cons_of_ne_nil hne
  choose! items hitems using h
  have hy := yields_group (yields_intercalate hop p ps fun q hq ↦ (hitems q hq).1)
  have hparts : ∀ q ∈ ps.map fun q ↦ (items q, q.condition), Completes q.1 q.2 := by
    simpa using fun q hq ↦ (hitems q (by simp [hq])).2
  have hc := hcompletes (hitems p (by simp)).2 hparts
  refine ⟨.opening :: (items p ++ chain op (ps.map items)) ++ [.closing], ?_, ?_⟩
  · rwa [htext, hparameters]
  · rw [hcondition]
    simpa [Condition.joined, List.foldl_map, Function.comp_def] using hc

/-- A regular predicate is read as the condition it stands for. -/
theorem Regular.reads {p : Predicate} (h : Regular p) : ∃ is, Reads p is := by
  induction h with
  | always =>
    exact ⟨[.atom (.constant true)],
      ⟨_, (readsAs_keyword .true_).denotes (by simp), fun _ ↦ rfl⟩, completes_atom _⟩
  | never =>
    exact ⟨[.atom (.constant false)],
      ⟨_, (readsAs_keyword .false_).denotes (by simp), fun _ ↦ rfl⟩, completes_atom _⟩
  | @isNull n hn =>
    refine reads_column (notMem_quote hn) (by simp [text]; rfl) (readsAs_spacedWords [.is, .null])
      (binds_tokens (by simp)) fun rest ↦ ?_
    simp [condition, ofTokens?]
  | @isNotNull n hn =>
    refine reads_column (notMem_quote hn) (by simp [text]; rfl)
      (readsAs_spacedWords [.is, .not, .null]) (binds_tokens (by simp)) fun rest ↦ ?_
    simp [condition, ofTokens?]
  | @compare n hn collated op d =>
    have hvalue : ReadsAs (op.sign.toList ++ [' ', '%', 's']) ([.sign op] ++ [.slot]) :=
      (readsAs_sign op).append (separated_blank _) (by simp) readsOff_spacedSlot.readsAs
    have hbind : Binds ([.sign op] ++ [.slot]) [d] ([.sign op] ++ [.value d]) :=
      (binds_token (by simp)).append (binds_slot d)
    cases collated with
    | true =>
      have hname : ReadsOff (inQuotes ['C']) [.name "C"] := readsOff_quoted (by simp)
      have hquoted : ReadsOff [' ', '"', 'C', '"', ' '] [.name "C"] :=
        readsOff_blank.append (hname.append readsOff_blank)
      have hcollate := (readsAs_spacedWords [.collate]).append_readsOff (separated_blank _)
        (by simp) hquoted
      refine reads_column (notMem_quote hn) (by simp [text]; rfl) (hcollate.append_readsAs hvalue)
        ((binds_tokens (by simp)).append hbind) fun rest ↦ ?_
      simp [condition, ofTokens?]
    | false =>
      refine reads_column (notMem_quote hn) (by simp [text]) (readsOff_blank.append_readsAs hvalue)
        hbind fun rest ↦ ?_
      simp [condition, ofTokens?]
  | @like n hn pattern =>
    refine reads_column (notMem_quote hn) (by simp [text]; rfl)
      ((readsOff_spacedWords [.like]).append_readsAs readsOff_slot.readsAs)
      ((binds_tokens (by simp)).append (binds_slot _)) fun rest ↦ ?_
    simp [condition, ofTokens?]
  | @equalsAny n hn ds =>
    have hsign : ReadsOff ([' '] ++ (Comparison.eq.sign.toList ++ [' '])) [.sign .eq] :=
      readsOff_blank.append ((readsAs_sign .eq).append_readsOff (separated_blank _) (by simp)
        readsOff_blank)
    have hany : ReadsOff (Keyword.any.chars ++ ['(']) ([.keyword .any] ++ [.opening]) :=
      (readsAs_keyword .any).append_readsOff (separated_cons ⟨rfl, rfl⟩) (by simp)
        (readsOff_char rfl)
    have hslot : ReadsOff (['%', 's'] ++ [')']) ([.slot] ++ [.closing]) :=
      readsOff_slot.append (readsOff_char rfl)
    refine reads_column (notMem_quote hn) (by simp [text]; rfl)
      ((hsign.append hany).append hslot).readsAs
      ((binds_tokens (by simp)).append ((binds_slot _).append (binds_token (by simp))))
      fun rest ↦ ?_
    simp [condition, ofTokens?]
  | @conj ps hne h ih =>
    exact reads_group begins_and (by simp [text, texts_eq_map]; rfl)
      (by rw [parameters, parametersOfAll_eq_flatMap])
      (by rw [condition, conditions_eq_map]) completes_and hne ih
  | @disj ps hne h ih =>
    exact reads_group begins_or (by simp [text, texts_eq_map]; rfl)
      (by rw [parameters, parametersOfAll_eq_flatMap])
      (by rw [condition, conditions_eq_map]) completes_or hne ih
  | @negation p h ih =>
    obtain ⟨is, hy, hc⟩ := ih
    have hnot : ReadsOff (Keyword.not.chars ++ [' ']) [.keyword .not] :=
      (readsAs_keyword .not).append_readsOff (separated_blank _) (by simp) readsOff_blank
    have hinner := yields_group (hy.behind hnot (by simp) begins_not)
    refine ⟨_, ?_, completes_not hc⟩
    simpa [text, parameters, Keyword.chars] using hinner

/-- The text of a regular predicate, with its parameters, is read as the condition it stands for. -/
theorem Regular.read?_text {p : Predicate} (h : Regular p) :
    Condition.read? p.text p.parameters = some p.condition := by
  obtain ⟨is, hy, hc⟩ := h.reads
  exact hy.read? hc

end Predicate

end RecordStore.Sql
