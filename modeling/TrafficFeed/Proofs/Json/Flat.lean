import Mathlib.Tactic.IntervalCases
import TrafficFeed.Json.Parser
import TrafficFeed.Json.Printer
import TrafficFeed.Proofs.Json.Numeral

/-!
# Flat objects

An object of texts and whole numbers reads back from its compact form as it was, whatever
characters the texts and keys are made of: each quoted text is one word, and so is each number, and
the words of the members follow one another with commas between them.
-/

namespace TrafficFeed.Json

open TrafficFeed.Text

/-- A text, or a whole number that fits in 64 bits. -/
inductive IsScalar : Json → Prop where
  | text (s : String) : IsScalar (.text s)
  | ofNat (n : Nat) (h : n < UInt64.size) : IsScalar (.ofNat n)

/-- The word that writes a scalar. -/
def word : Json → Token
  | .text s => .text s
  | v => .atom v

/-- The words of an object after its opening mark. -/
def words : List (String × Json) → List Token
  | [] => [.closeObject]
  | [(k, v)] => [.text k, .colon, word v, .closeObject]
  | (k, v) :: m :: ms => .text k :: .colon :: word v :: .comma :: words (m :: ms)

namespace Lexer

variable {c : Char} {t : Token} {done : List Token}

lemma run_append (s : State) (cs ds : List Char) :
    run s (cs ++ ds) = (run s cs).bind fun s' => run s' ds := by
  simp [run]

lemma run_cons (s : State) (c : Char) (cs : List Char) :
    run s (c :: cs) = (step s c).bind fun s' => run s' cs := by
  simp [run]

@[simp] lemma run_nil (s : State) : run s [] = some s := rfl

/-! ### Quoted texts -/

/-- The characters below the blank are finitely many, and each is read as it was written. -/
lemma run_escape_control {n : Nat} (h : n < 0x20) (done : List Token) (read : List Char) :
    run ⟨.text .none read, done⟩ (escape (Char.ofNat n)) =
      some ⟨.text .none (Char.ofNat n :: read), done⟩ := by
  interval_cases n <;> rfl

lemma run_escape (done : List Token) (read : List Char) (c : Char) :
    run ⟨.text .none read, done⟩ (escape c) = some ⟨.text .none (c :: read), done⟩ := by
  by_cases hcontrol : c.toNat < 0x20
  · rw [← Char.ofNat_toNat c]
    exact run_escape_control hcontrol done read
  by_cases hquote : c = '"'
  · subst hquote
    rfl
  by_cases hback : c = '\\'
  · subst hback
    rfl
  -- every other character stands for itself
  have hself : escape c = [c] := by
    have hne : ∀ d : Char, d.toNat < 0x20 → c ≠ d := by
      intro d hd heq
      exact hcontrol (heq ▸ hd)
    unfold escape
    rw [if_neg hquote, if_neg hback, if_neg (by omega), if_neg (by omega),
      if_neg (hne _ (by decide)), if_neg (hne _ (by decide)), if_neg (hne _ (by decide)),
      if_neg hcontrol]
  rw [hself]
  simp [run_cons, step, stepText, hquote, hback, hcontrol]

lemma run_escapes (done : List Token) (cs read : List Char) :
    run ⟨.text .none read, done⟩ (cs.flatMap escape) =
      some ⟨.text .none (cs.reverse ++ read), done⟩ := by
  induction cs generalizing read with
  | nil => rfl
  | cons c cs ih => simp [run_append, run_escape, ih]

lemma run_quoteChars (done : List Token) (cs : List Char) :
    run ⟨.idle, done⟩ (quoteChars cs) = some ⟨.idle, .text (String.ofList cs) :: done⟩ := by
  have hopen : step ⟨.idle, done⟩ '"' = some ⟨.text .none [], done⟩ := rfl
  have hclose : step ⟨.text .none cs.reverse, done⟩ '"' =
      some ⟨.idle, .text (String.ofList cs.reverse.reverse) :: done⟩ := rfl
  rw [List.reverse_reverse] at hclose
  simp [quoteChars, run_cons, run_append, run_escapes, hopen, hclose]

/-! ### Numbers -/

lemma isWordChar_of_isDigit (h : c.isDigit = true) : isWordChar c = true := by
  simp only [Char.isDigit, Bool.and_eq_true, decide_eq_true_eq] at h
  simp only [isWordChar, Bool.or_eq_true, Bool.and_eq_true, decide_eq_true_eq]
  left; left; left; left; left
  exact h

lemma stepIdle_of_isDigit (h : c.isDigit = true) : stepIdle done c = some ⟨.word [c], done⟩ := by
  have hne : ∀ d : Char, d.isDigit = false → c ≠ d := by
    rintro d hd rfl
    simp [h] at hd
  have hblank : isBlank c = false := by
    simp [isBlank, hne ' ' (by decide), hne '\n' (by decide), hne '\r' (by decide),
      hne '\t' (by decide)]
  simp [stepIdle, hblank, hne '"' (by decide), isWordChar_of_isDigit h]

lemma run_word (cs read : List Char) (h : ∀ c ∈ cs, isWordChar c = true) :
    run ⟨.word read, done⟩ cs = some ⟨.word (cs.reverse ++ read), done⟩ := by
  induction cs generalizing read with
  | nil => rfl
  | cons c cs ih =>
    have hc : step ⟨.word read, done⟩ c = some ⟨.word (c :: read), done⟩ := by
      simp [step, h c (by simp)]
    have ih := ih (c :: read) fun d hd => h d (by simp [hd])
    simp [run_cons, hc, ih]

lemma run_toDigits (n : Nat) :
    run ⟨.idle, done⟩ (Nat.toDigits 10 n) = some ⟨.word (Nat.toDigits 10 n).reverse, done⟩ := by
  have hdigit : ∀ c ∈ Nat.toDigits 10 n, c.isDigit = true := fun c hc =>
    Nat.isDigit_of_mem_toDigits (by decide) (by decide) hc
  obtain ⟨c, cs, hcons⟩ := List.exists_cons_of_ne_nil (Nat.toDigits_ne_nil (n := n) (b := 10))
  rw [hcons] at hdigit ⊢
  have hfirst : step ⟨.idle, done⟩ c = some ⟨.word [c], done⟩ :=
    stepIdle_of_isDigit (hdigit c (by simp))
  have hrest : run ⟨.word [c], done⟩ cs = some ⟨.word (cs.reverse ++ [c]), done⟩ :=
    run_word cs [c] fun d hd => isWordChar_of_isDigit (hdigit d (by simp [hd]))
  simp [run_cons, hfirst, hrest]

lemma word?_toDigits {n : Nat} (h : n < UInt64.size) :
    word? (Nat.toDigits 10 n) = some (.atom (.ofNat n)) := by
  have hname : ∀ c cs, Nat.toDigits 10 n = c :: cs → c.isDigit = true := fun c cs heq =>
    Nat.isDigit_of_mem_toDigits (by decide) (by decide) (heq ▸ List.mem_cons_self)
  have hnull : Nat.toDigits 10 n ≠ "null".toList := fun heq => absurd (hname _ _ heq) (by decide)
  have htrue : Nat.toDigits 10 n ≠ "true".toList := fun heq => absurd (hname _ _ heq) (by decide)
  have hfalse : Nat.toDigits 10 n ≠ "false".toList := fun heq => absurd (hname _ _ heq) (by decide)
  rw [word?, if_neg hnull, if_neg htrue, if_neg hfalse, Number.ofChars?_toDigits h]
  rfl

/-! ### Values and members -/

/-- A value is read when a comma or the end of its object comes after it. -/
lemma run_scalar {v : Json} (hv : IsScalar v) (hc : c = ',' ∨ c = '\x7d') (ht : mark? c = some t) :
    run ⟨.idle, done⟩ ((render v).toList ++ [c]) = some ⟨.idle, t :: word v :: done⟩ := by
  have hidle : ∀ done, stepIdle done c = some ⟨.idle, t :: done⟩ := by
    intro done
    rcases hc with rfl | rfl <;> simp_all [stepIdle, isBlank, isWordChar]
  have hend : isWordChar c = false := by
    rcases hc with rfl | rfl <;> rfl
  cases hv with
  | text s =>
    simp [render, quote, run_append, run_quoteChars, run_cons, step, hidle, word]
  | ofNat n hn =>
    have hdigits : (render (.ofNat n)).toList = Nat.toDigits 10 n := by
      have htext : toString (n : Int) = n.repr := rfl
      simp [render, ofNat, Number.render, htext]
    simp [hdigits, run_append, run_toDigits, run_cons, step, hend, word?_toDigits hn, hidle]
    rfl

/-- The characters of an object after its opening mark. -/
def closing (members : List (String × Json)) : List Char :=
  (",".intercalate (renderMembers members)).toList ++ ['\x7d']

lemma run_member {k : String} {v : Json} (hv : IsScalar v) (hc : c = ',' ∨ c = '\x7d')
    (ht : mark? c = some t) :
    run ⟨.idle, done⟩ ((quote k ++ ":" ++ render v).toList ++ [c]) =
      some ⟨.idle, t :: word v :: .colon :: .text k :: done⟩ := by
  have hcolon : ∀ done, step ⟨.idle, done⟩ ':' = some ⟨.idle, .colon :: done⟩ := fun _ => rfl
  have hchars : (quote k ++ ":" ++ render v).toList ++ [c] =
      quoteChars k.toList ++ (':' :: ((render v).toList ++ [c])) := by
    simp [quote]
  rw [hchars, run_append, run_quoteChars, Option.bind_some, run_cons, hcolon, Option.bind_some,
    run_scalar hv hc ht, String.ofList_toList]

lemma run_closing (members : List (String × Json)) (h : ∀ m ∈ members, IsScalar m.2) :
    run ⟨.idle, done⟩ (closing members) = some ⟨.idle, (words members).reverse ++ done⟩ := by
  induction members generalizing done with
  | nil => rfl
  | cons m ms ih =>
    obtain ⟨k, v⟩ := m
    have hv : IsScalar v := h (k, v) (by simp)
    cases ms with
    | nil =>
      have hlast : closing [(k, v)] = (quote k ++ ":" ++ render v).toList ++ ['\x7d'] := by
        simp [closing, renderMembers]
      rw [hlast, run_member hv (.inr rfl) rfl]
      rfl
    | cons m ms =>
      have hnext : closing ((k, v) :: m :: ms) =
          (quote k ++ ":" ++ render v).toList ++ [','] ++ closing (m :: ms) := by
        simp [closing, renderMembers]
      rw [hnext, run_append, run_member hv (.inl rfl) rfl, Option.bind_some,
        ih fun n hn => h n (by simp [hn])]
      simp [words]

end Lexer

/-! ### The whole text -/

lemma ofChars?_render {members : List (String × Json)} (h : ∀ m ∈ members, IsScalar m.2) :
    Token.ofChars? (render (.object members)).toList = some (.openObject :: words members) := by
  have hopen : Lexer.step ⟨.idle, []⟩ '\x7b' = some ⟨.idle, [.openObject]⟩ := rfl
  have hchars : (render (.object members)).toList = '\x7b' :: Lexer.closing members := by
    simp [render, Lexer.closing]
  rw [Token.ofChars?, hchars, Lexer.run_cons, hopen]
  simp [Lexer.run_closing members h, Lexer.finish]

namespace Parser

/-- What may come next in an object: its first key, or a key after a comma. -/
lemma run_words {m : String × Json} {members before : List (String × Json)} {expect : Expect}
    (h : ∀ n ∈ m :: members, IsScalar n.2)
    (hexpect : (expect = .keyOrEnd before) ∨ expect = .key before) :
    run ⟨expect, []⟩ (words (m :: members)) =
      some ⟨.after (.object (before.reverse ++ m :: members)), []⟩ := by
  induction members generalizing m before expect with
  | nil =>
    obtain ⟨k, v⟩ := m
    have hv : IsScalar v := h (k, v) (by simp)
    rcases hexpect with rfl | rfl <;> cases hv <;> simp [words, word, run, step, stepValue, ofNat]
  | cons n ms ih =>
    obtain ⟨k, v⟩ := m
    have hv : IsScalar v := h (k, v) (by simp)
    have hrest : ∀ o ∈ n :: ms, IsScalar o.2 := fun o ho => h o (by simp [ho])
    have hmember : run ⟨expect, []⟩ (.text k :: .colon :: word v :: .comma :: words (n :: ms)) =
        run ⟨.key ((k, v) :: before), []⟩ (words (n :: ms)) := by
      rcases hexpect with rfl | rfl <;> cases hv <;> simp [word, run, step, stepValue, ofNat]
    simp [words, hmember, ih hrest (.inr rfl)]

end Parser

lemma ofTokens?_words {members : List (String × Json)} (h : ∀ m ∈ members, IsScalar m.2) :
    ofTokens? (.openObject :: words members) = some (.object members) := by
  have hopen : ∀ ts, Parser.run Parser.start (.openObject :: ts) =
      Parser.run ⟨.keyOrEnd [], []⟩ ts := fun _ => rfl
  cases members with
  | nil => rfl
  | cons m ms => simp [ofTokens?, hopen, Parser.run_words h (.inl rfl), Parser.finish]

/-- An object of scalars reads back from its octets as it was. -/
lemma parseBytes?_render {members : List (String × Json)} (h : ∀ m ∈ members, IsScalar m.2) :
    parseBytes? (render (.object members)).toUTF8 = some (.object members) := by
  have htext : String.fromUTF8? (render (.object members)).toUTF8 =
      some (render (.object members)) := dif_pos (render (.object members)).isValidUTF8
  rw [parseBytes?, htext]
  simp [parse?, ofChars?, ofChars?_render h, ofTokens?_words h]

end TrafficFeed.Json
