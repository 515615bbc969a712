import RecordStore.Datum.Basic
import RecordStore.Sql.Predicate

/-!
# The words of SQL

SQL text as a list of tokens, read character by character.  A quoted name stands for itself in
whatever case; `%s` is a place for a parameter.

* `Token.scan?` reads the tokens of a text.
* `Token.bind?` puts parameters into the places for them, from left to right.
-/

namespace RecordStore.Sql

/-- The keywords of the statements that are read here. -/
inductive Keyword where
  | select | from_ | where_ | order | by_ | collate | asc | desc | nulls | first | last
  | limit | offset | for_ | update | is | not | null | and | or | like | any | true_ | false_
  deriving DecidableEq, Repr

namespace Keyword

/-- Every keyword. -/
def all : List Keyword :=
  [select, from_, where_, order, by_, collate, asc, desc, nulls, first, last, limit, offset, for_,
    update, is, not, null, and, or, like, any, true_, false_]

/-- How a keyword is written. -/
def chars : Keyword → List Char
  | select => ['S', 'E', 'L', 'E', 'C', 'T']
  | from_ => ['F', 'R', 'O', 'M']
  | where_ => ['W', 'H', 'E', 'R', 'E']
  | order => ['O', 'R', 'D', 'E', 'R']
  | by_ => ['B', 'Y']
  | collate => ['C', 'O', 'L', 'L', 'A', 'T', 'E']
  | asc => ['A', 'S', 'C']
  | desc => ['D', 'E', 'S', 'C']
  | nulls => ['N', 'U', 'L', 'L', 'S']
  | first => ['F', 'I', 'R', 'S', 'T']
  | last => ['L', 'A', 'S', 'T']
  | limit => ['L', 'I', 'M', 'I', 'T']
  | offset => ['O', 'F', 'F', 'S', 'E', 'T']
  | for_ => ['F', 'O', 'R']
  | update => ['U', 'P', 'D', 'A', 'T', 'E']
  | is => ['I', 'S']
  | not => ['N', 'O', 'T']
  | null => ['N', 'U', 'L', 'L']
  | and => ['A', 'N', 'D']
  | or => ['O', 'R']
  | like => ['L', 'I', 'K', 'E']
  | any => ['A', 'N', 'Y']
  | true_ => ['T', 'R', 'U', 'E']
  | false_ => ['F', 'A', 'L', 'S', 'E']

/-- The keyword that is written so. -/
def ofChars? (cs : List Char) : Option Keyword := all.find? (·.chars = cs)

@[simp] theorem ofChars?_chars (k : Keyword) : ofChars? k.chars = some k := by
  cases k <;> rfl

end Keyword

/-- A word of SQL. -/
inductive Token where
  | keyword (k : Keyword)
  /-- A name in double quotes. -/
  | name (s : String)
  | sign (c : Comparison)
  | opening
  | closing
  | comma
  | star
  /-- A place for a parameter. -/
  | slot
  /-- A parameter in its place. -/
  | value (d : Datum)

namespace Token

/-- The comparison that is written so. -/
def sign? : List Char → Option Comparison
  | ['='] => some .eq
  | ['<', '>'] => some .ne
  | ['>'] => some .gt
  | ['>', '='] => some .ge
  | ['<'] => some .lt
  | ['<', '='] => some .le
  | _ => none

/-- Is the character one of a sign? -/
def isSignChar (c : Char) : Bool := c == '=' || c == '<' || c == '>'

/-- What has been read of a token that has not ended. -/
inductive Begun where
  | nothing
  | word (cs : List Char)
  | quoted (cs : List Char)
  | sign (cs : List Char)
  | percent

namespace Begun

/-- The token that ends here, if one does. -/
def finish? : Begun → Option (List Token)
  | nothing => some []
  | word cs => (Keyword.ofChars? cs).map fun k => [.keyword k]
  | quoted _ => none
  | sign cs => (sign? cs).map fun c => [.sign c]
  | percent => none

/-- What a character begins: a token of its own, or one that may go on. -/
def start? (c : Char) : Option (List Token × Begun) :=
  if c = ' ' then some ([], nothing)
  else if c = '(' then some ([.opening], nothing)
  else if c = ')' then some ([.closing], nothing)
  else if c = ',' then some ([.comma], nothing)
  else if c = '*' then some ([.star], nothing)
  else if c = '"' then some ([], quoted [])
  else if c = '%' then some ([], percent)
  else if isSignChar c then some ([], sign [c])
  else if isNameStart c then some ([], word [c])
  else none

/-- Does the character belong to the token that has begun? -/
def goesOn : Begun → Char → Bool
  | word _, c => isNameChar c
  | sign _, c => isSignChar c
  | _, _ => false

/-- The token with one more character. -/
def extend : Begun → Char → Begun
  | word cs, c => word (cs ++ [c])
  | quoted cs, c => quoted (cs ++ [c])
  | sign cs, c => sign (cs ++ [c])
  | b, _ => b

/-- What one more character does: the tokens that it completes, and what it has begun. -/
def step? (b : Begun) (c : Char) : Option (List Token × Begun) :=
  match b with
  | quoted cs => some (if c = '"' then ([.name (String.ofList cs)], nothing) else ([], b.extend c))
  | percent => if c = 's' then some ([.slot], nothing) else none
  | b =>
    if b.goesOn c then some ([], b.extend c)
    else do
      let done ← b.finish?
      let (ts, b) ← start? c
      some (done ++ ts, b)

end Begun

/-- The tokens of a text of which something has been read already. -/
def scanFrom? (b : Begun) : List Char → Option (List Token)
  | [] => b.finish?
  | c :: cs => (b.step? c).bind fun p => (scanFrom? p.2 cs).map (p.1 ++ ·)

/-- The tokens of a text. -/
def scan? (s : String) : Option (List Token) := scanFrom? .nothing s.toList

/-- The tokens with parameters in the places for them; there must be as many of the ones as of the
others. -/
def bind? : List Token → List Datum → Option (List Token)
  | [], [] => some []
  | [], _ :: _ => none
  | slot :: ts, d :: ds => (bind? ts ds).map (.value d :: ·)
  | slot :: _, [] => none
  | t :: ts, ds => (bind? ts ds).map (t :: ·)

/-! ## Reading piece by piece -/

/-- The text does not go on with a word or a sign. -/
def Separated (cs : List Char) : Prop := ∀ c ∈ cs.head?, isNameChar c = false ∧ isSignChar c = false

/-- The piece of text is read as these tokens, whatever follows that is separate from it. -/
def ReadsAs (cs : List Char) (ts : List Token) : Prop :=
  ∀ rest, Separated rest →
    scanFrom? .nothing (cs ++ rest) = (scanFrom? .nothing rest).map (ts ++ ·)

/-- The piece of text is read as these tokens, whatever follows. -/
def ReadsOff (cs : List Char) (ts : List Token) : Prop :=
  ∀ rest, scanFrom? .nothing (cs ++ rest) = (scanFrom? .nothing rest).map (ts ++ ·)

variable {cs ds : List Char} {ts us : List Token}

@[simp] theorem separated_nil : Separated [] := by simp [Separated]

theorem separated_cons {c : Char} (h : isNameChar c = false ∧ isSignChar c = false) :
    Separated (c :: cs) := by simpa [Separated] using h

theorem Separated.append (h : Separated cs) (hne : cs ≠ []) (ds : List Char) :
    Separated (cs ++ ds) := by
  cases cs with
  | nil => exact absurd rfl hne
  | cons c cs => simpa [Separated] using h

theorem ReadsOff.readsAs (h : ReadsOff cs ts) : ReadsAs cs ts := fun rest _ ↦ h rest

theorem ReadsOff.append (h₁ : ReadsOff cs ts) (h₂ : ReadsOff ds us) :
    ReadsOff (cs ++ ds) (ts ++ us) := by
  intro rest
  rw [List.append_assoc, h₁, h₂, Option.map_map]
  congr 1
  funext vs
  simp

theorem ReadsOff.append_readsAs (h₁ : ReadsOff cs ts) (h₂ : ReadsAs ds us) :
    ReadsAs (cs ++ ds) (ts ++ us) := by
  intro rest hr
  rw [List.append_assoc, h₁, h₂ rest hr, Option.map_map]
  congr 1
  funext vs
  simp

/-- A piece may stand before another one that is separate from it. -/
theorem ReadsAs.append (h₁ : ReadsAs cs ts) (hs : Separated ds) (hne : ds ≠ [])
    (h₂ : ReadsAs ds us) : ReadsAs (cs ++ ds) (ts ++ us) := by
  intro rest hr
  rw [List.append_assoc, h₁ _ (hs.append hne rest), h₂ rest hr, Option.map_map]
  congr 1
  funext vs
  simp

theorem ReadsAs.append_readsOff (h₁ : ReadsAs cs ts) (hs : Separated ds) (hne : ds ≠ [])
    (h₂ : ReadsOff ds us) : ReadsOff (cs ++ ds) (ts ++ us) := by
  intro rest
  rw [List.append_assoc, h₁ _ (hs.append hne rest), h₂ rest, Option.map_map]
  congr 1
  funext vs
  simp

theorem ReadsAs.scanFrom? (h : ReadsAs cs ts) : scanFrom? .nothing cs = some ts := by
  simpa [Token.scanFrom?, Begun.finish?] using h [] separated_nil

theorem scanFrom?_cons {b b' : Begun} {c : Char} (h : b.step? c = some (ts, b')) (cs : List Char) :
    Token.scanFrom? b (c :: cs) = (Token.scanFrom? b' cs).map (ts ++ ·) := by
  simp [Token.scanFrom?, h]

theorem scanFrom?_goOn {b b' : Begun} {c : Char} (h : b.step? c = some ([], b')) (cs : List Char) :
    Token.scanFrom? b (c :: cs) = Token.scanFrom? b' cs := by
  simp [Token.scanFrom?, h]

/-- What has begun as a word takes up the characters of a word. -/
theorem scanFrom?_word (w : List Char) (h : cs.all isNameChar = true) (rest : List Char) :
    scanFrom? (.word w) (cs ++ rest) = scanFrom? (.word (w ++ cs)) rest := by
  induction cs generalizing w with
  | nil => simp
  | cons c cs ih =>
    simp only [List.all_cons, Bool.and_eq_true] at h
    simp [Token.scanFrom?, Begun.step?, Begun.goesOn, Begun.extend, h.1, ih _ h.2]

/-- A token that has begun ends where something separate follows. -/
theorem scanFrom?_separated {b : Begun} (hb : (∃ w, b = .word w) ∨ ∃ w, b = .sign w)
    (hf : b.finish? = some ts) {rest : List Char} (hr : Separated rest) :
    scanFrom? b rest = (scanFrom? .nothing rest).map (ts ++ ·) := by
  cases rest with
  | nil => exact hf.trans (by simp [Token.scanFrom?, Begun.finish?])
  | cons c rest =>
    have hc : isNameChar c = false ∧ isSignChar c = false := by simpa [Separated] using hr
    have hstep : b.step? c = (Begun.start? c).map fun p ↦ (ts ++ p.1, p.2) := by
      rcases hb with ⟨w, rfl⟩ | ⟨w, rfl⟩ <;>
        simp only [Begun.step?, Begun.goesOn, hc.1, hc.2, hf] <;>
        cases Begun.start? c <;> rfl
    have hnothing : Begun.nothing.step? c = Begun.start? c := by
      simp only [Begun.step?, Begun.goesOn, Begun.finish?]
      cases Begun.start? c <;> rfl
    simp only [Token.scanFrom?, hstep, hnothing]
    cases Begun.start? c with
    | none => rfl
    | some p => simp [Function.comp_def]

theorem readsAs_keyword (k : Keyword) : ReadsAs k.chars [.keyword k] := by
  intro rest hr
  have hchars : ∃ c cs, k.chars = c :: cs ∧ Begun.nothing.step? c = some ([], .word [c]) ∧
      cs.all isNameChar = true := by
    cases k <;> exact ⟨_, _, rfl, rfl, rfl⟩
  obtain ⟨c, cs, hk, hc, hcs⟩ := hchars
  have hfinish : (Begun.word ([c] ++ cs)).finish? = some [.keyword k] := by
    rw [List.singleton_append, ← hk, Begun.finish?, Keyword.ofChars?_chars]
    rfl
  rw [hk, List.cons_append, scanFrom?_goOn hc, scanFrom?_word [c] hcs,
    scanFrom?_separated (.inl ⟨_, rfl⟩) hfinish hr]

theorem readsAs_sign (c : Comparison) : ReadsAs c.sign.toList [.sign c] := by
  intro rest hr
  have hsign : ∃ d cs, c.sign.toList = d :: cs ∧
      Token.scanFrom? .nothing (d :: cs ++ rest) = Token.scanFrom? (.sign (d :: cs)) rest ∧
      sign? (d :: cs) = some c := by
    have one {d : Char} (h : Begun.nothing.step? d = some ([], .sign [d])) :
        Token.scanFrom? .nothing ([d] ++ rest) = Token.scanFrom? (.sign [d]) rest :=
      scanFrom?_goOn h rest
    have two {d e : Char} (h : Begun.nothing.step? d = some ([], .sign [d]))
        (h' : (Begun.sign [d]).step? e = some ([], .sign [d, e])) :
        Token.scanFrom? .nothing ([d, e] ++ rest) = Token.scanFrom? (.sign [d, e]) rest :=
      (scanFrom?_goOn h _).trans (scanFrom?_goOn h' rest)
    cases c
    case eq => exact ⟨_, _, rfl, one rfl, rfl⟩
    case ne => exact ⟨_, _, rfl, two rfl rfl, rfl⟩
    case gt => exact ⟨_, _, rfl, one rfl, rfl⟩
    case ge => exact ⟨_, _, rfl, two rfl rfl, rfl⟩
    case lt => exact ⟨_, _, rfl, one rfl, rfl⟩
    case le => exact ⟨_, _, rfl, two rfl rfl, rfl⟩
  obtain ⟨d, cs, hc, hscan, hs⟩ := hsign
  rw [hc, hscan, scanFrom?_separated (.inr ⟨_, rfl⟩) (by rw [Begun.finish?, hs]; rfl) hr]

/-- A character that is a token of its own, or a blank. -/
theorem readsOff_char {c : Char} (h : Begun.nothing.step? c = some (ts, .nothing)) :
    ReadsOff [c] ts := fun rest ↦ scanFrom?_cons h rest

theorem readsOff_slot : ReadsOff ['%', 's'] [.slot] := by
  intro rest
  have h₁ : Begun.nothing.step? '%' = some ([], .percent) := rfl
  have h₂ : Begun.percent.step? 's' = some ([.slot], .nothing) := rfl
  exact (scanFrom?_goOn h₁ _).trans (scanFrom?_cons h₂ rest)

/-- A name that holds no quote, between its quotes. -/
theorem readsOff_quoted (h : '"' ∉ cs) : ReadsOff (inQuotes cs) [.name (String.ofList cs)] := by
  intro rest
  have h₁ : Begun.nothing.step? '"' = some ([], .quoted []) := rfl
  have inside (w : List Char) : Token.scanFrom? (.quoted w) (cs ++ '"' :: rest) =
      (Token.scanFrom? .nothing rest).map ([.name (String.ofList (w ++ cs))] ++ ·) := by
    induction cs generalizing w with
    | nil => exact (scanFrom?_cons (by simp [Begun.step?]) rest)
    | cons c cs ih =>
      simp only [List.mem_cons, not_or] at h
      have hc : (Begun.quoted w).step? c = some ([], .quoted (w ++ [c])) := by
        simp [Begun.step?, Begun.extend, Ne.symm h.1]
      rw [List.cons_append, scanFrom?_goOn hc, ih h.2, List.append_assoc, List.singleton_append]
  rw [inQuotes, List.append_assoc, List.cons_append, scanFrom?_goOn h₁]
  exact inside []

/-! ## Binding piece by piece -/

/-- The places in the tokens take these parameters, which gives the other tokens. -/
def Binds (ts : List Token) (ds : List Datum) (us : List Token) : Prop :=
  ∀ rest es, bind? (ts ++ rest) (ds ++ es) = (bind? rest es).map (us ++ ·)

theorem Binds.append {ts₁ us₁ ts₂ us₂ : List Token} {ds₁ ds₂ : List Datum}
    (h₁ : Binds ts₁ ds₁ us₁) (h₂ : Binds ts₂ ds₂ us₂) :
    Binds (ts₁ ++ ts₂) (ds₁ ++ ds₂) (us₁ ++ us₂) := by
  intro rest es
  rw [List.append_assoc, List.append_assoc, h₁, h₂, Option.map_map]
  congr 1
  funext vs
  simp

theorem Binds.bind? {ds : List Datum} (h : Binds ts ds us) : Token.bind? ts ds = some us := by
  simpa [Token.bind?] using h [] []

@[simp] theorem binds_nil : Binds [] [] [] := by
  intro rest es
  simp

theorem binds_slot (d : Datum) : Binds [slot] [d] [value d] := by
  intro rest es
  simp [Token.bind?]

/-- A token that is no place stays as it is. -/
theorem binds_token {t : Token} (h : t ≠ slot) : Binds [t] [] [t] := by
  intro rest es
  cases t <;> simp_all [Token.bind?]

/-- Tokens among which no place is stay as they are. -/
theorem binds_tokens (h : slot ∉ ts) : Binds ts [] ts := by
  induction ts with
  | nil => exact binds_nil
  | cons t ts ih =>
    simp only [List.mem_cons, not_or] at h
    exact (binds_token (Ne.symm h.1)).append (ih h.2)

/-! ## Text with parameters -/

/-- Keywords with a blank before each. -/
def spacedWords (ks : List Keyword) : List Char := ks.flatMap fun k => ' ' :: k.chars

theorem readsOff_blank : ReadsOff [' '] [] := readsOff_char rfl

theorem separated_blank (cs : List Char) : Separated (' ' :: cs) := separated_cons ⟨rfl, rfl⟩

theorem readsAs_spacedWords (ks : List Keyword) :
    ReadsAs (spacedWords ks) (ks.map Token.keyword) := by
  induction ks with
  | nil =>
    intro rest _
    exact Option.map_id'.symm
  | cons k ks ih =>
    have hk : ReadsAs (' ' :: k.chars) [.keyword k] :=
      readsOff_blank.append_readsAs (readsAs_keyword k)
    cases ks with
    | nil => simpa [spacedWords] using hk
    | cons k' ks =>
      have hsep : Separated (spacedWords (k' :: ks)) := by
        simpa [spacedWords] using separated_blank _
      exact hk.append hsep (by simp) ih

/-- Keywords with a blank before each and one after the last. -/
theorem readsOff_spacedWords (ks : List Keyword) :
    ReadsOff (spacedWords ks ++ [' ']) (ks.map Token.keyword) := by
  have h := (readsAs_spacedWords ks).append_readsOff (separated_blank []) (by simp) readsOff_blank
  rwa [List.append_nil] at h

/-- A keyword with a blank after it. -/
theorem readsOff_keyword (k : Keyword) : ReadsOff (k.chars ++ [' ']) [.keyword k] :=
  (readsAs_keyword k).append_readsOff (separated_blank []) (by simp) readsOff_blank

/-- A place with a blank before it. -/
theorem readsOff_spacedSlot : ReadsOff [' ', '%', 's'] [slot] := readsOff_blank.append readsOff_slot

/-- The piece of text, with these parameters, is read as these tokens. -/
def Denotes (cs : List Char) (ds : List Datum) (us : List Token) : Prop :=
  ∃ ts, ReadsAs cs ts ∧ Binds ts ds us

variable {cs' : List Char} {ds₁ ds₂ : List Datum} {us' : List Token}

theorem ReadsAs.denotes (h : ReadsAs cs ts) (hslot : slot ∉ ts) : Denotes cs [] ts :=
  ⟨ts, h, binds_tokens hslot⟩

theorem denotes_slot (d : Datum) : Denotes ['%', 's'] [d] [value d] :=
  ⟨[slot], readsOff_slot.readsAs, binds_slot d⟩

theorem Denotes.append (h : Denotes cs ds₁ us) (hs : Separated cs') (hne : cs' ≠ [])
    (h' : Denotes cs' ds₂ us') : Denotes (cs ++ cs') (ds₁ ++ ds₂) (us ++ us') := by
  obtain ⟨ts, hr, hb⟩ := h
  obtain ⟨ts', hr', hb'⟩ := h'
  exact ⟨ts ++ ts', hr.append hs hne hr', hb.append hb'⟩

/-- Something without places may stand in front. -/
theorem Denotes.behind (h : Denotes cs' ds₂ us') (hr : ReadsOff cs ts) (hslot : slot ∉ ts) :
    Denotes (cs ++ cs') ds₂ (ts ++ us') := by
  obtain ⟨ts', hr', hb'⟩ := h
  exact ⟨ts ++ ts', hr.append_readsAs hr', (binds_tokens hslot).append hb'⟩

theorem Denotes.tokens {s : String} (h : Denotes s.toList ds₁ us) :
    (scan? s).bind (bind? · ds₁) = some us := by
  obtain ⟨ts, hr, hb⟩ := h
  rw [scan?, hr.scanFrom?, Option.bind_some, hb.bind?]

/-- Pieces with something between them. -/
theorem denotes_intercalate {sep : List Char} {mid : List Token} (hsep : ReadsOff sep mid)
    (hseparated : Separated sep) (hsepne : sep ≠ []) (hslot : slot ∉ mid)
    {pieces : List (List Char × List Datum × List Token)} (hne : pieces ≠ [])
    (h : ∀ p ∈ pieces, Denotes p.1 p.2.1 p.2.2) :
    Denotes (sep.intercalate (pieces.map (·.1))) (pieces.flatMap (·.2.1))
      (mid.intercalate (pieces.map (·.2.2))) := by
  induction pieces with
  | nil => exact absurd rfl hne
  | cons p pieces ih =>
    have hp := h p (by simp)
    cases pieces with
    | nil => simpa using hp
    | cons q pieces =>
      have hrest := (ih (by simp) fun r hr ↦ h r (by simp_all)).behind hsep hslot
      have hall := hp.append (hseparated.append hsepne _) (by simp [hsepne]) hrest
      simpa [List.intercalate_cons_cons] using hall

end Token

end RecordStore.Sql
