import Mathlib.Data.List.Basic
import Mathlib.Data.Int.Notation
import Mathlib.Data.List.Infix
import Mathlib.Data.Nat.Notation
import Mathlib.Order.Basic
import Mathlib.Tactic.SplitIfs

/-!
# Reading printed text

A `Reader` takes a value off the front of a text, as a regular expression does whose parts
leave it one way to go on: a fixed word, one word of a table, a run of characters of a class as
long as it goes, a number. `Reads more r text v` is the law that ties it to a printer: before
any text that does not begin with one of the characters `more`, `r` takes exactly `text` and
gives `v`. `Reads.bind` chains readers along a printed line, and `reads_oneOf` is unique
decoding from a table in which no word begins another.

Over whole texts, `findAll` collects the lines that a reader takes in full, and `search` the
first place where it succeeds.
-/

namespace EnvMonitor

/-- What takes a value off the front of a text, and leaves the rest. -/
abbrev Reader (α : Type) := StateT (List Char) Option α

namespace Reader

variable {α β : Type}

/-! ### Readers -/

/-- The word `w`. -/
def word (w : List Char) : Reader Unit := fun text =>
  if w <+: text then some ((), text.drop w.length) else none

/-- The first word of a table that the text begins with; the result is what it stands for. -/
def oneOf (table : List (List Char × α)) : Reader α := fun text =>
  table.findSome? fun entry => (word entry.1 text).map fun out => (entry.2, out.2)

/-- One character of a class, and all that follow it. -/
def many1 (p : Char → Bool) : Reader (List Char) := fun text =>
  if text.takeWhile p = [] then none else some (text.takeWhile p, text.dropWhile p)

/-- A number in decimal digits. -/
def number : Reader ℕ := do return Nat.ofDigitChars 10 (← many1 Char.isDigit) 0

/-- What `r` reads, or its negative behind a minus sign. -/
def optNeg [Neg α] (r : Reader α) : Reader α := fun text =>
  match text with
  | '-' :: rest => (r rest).map fun out => (-out.1, out.2)
  | _ => r text

/-- A number that may have a minus sign. -/
def integer : Reader ℤ := optNeg do return ((← number : ℕ) : ℤ)

/-- The value of a line that the reader takes in full. -/
def matchLine (r : Reader α) (line : List Char) : Option α :=
  match r line with
  | some (v, []) => some v
  | _ => none

/-- The values of all lines of a text that the reader takes in full, in order. -/
def findAll (r : Reader α) (text : List Char) : List α :=
  (text.splitOn '\n').filterMap r.matchLine

/-- The value at the first place of a text where the reader succeeds. -/
def search (r : Reader α) (text : List Char) : Option α :=
  text.tails.findSome? fun rest => (r rest).map Prod.fst

/-! ### Printers -/

/-- `%u`. -/
def decimal (n : ℕ) : List Char := Nat.toDigits 10 n

/-- `%d`. -/
def signedDecimal (i : ℤ) : List Char :=
  if i < 0 then '-' :: decimal i.natAbs else decimal i.natAbs

/-- The text of some lines, each ended by a newline. -/
def unlines (ls : List (List Char)) : List Char := ls.flatMap fun line => line ++ ['\n']

/-! ### Reading back what was printed -/

/-- Before a text that does not go on with one of the characters `more`, the reader takes
exactly `text` and gives `v`. -/
def Reads (more : Char → Bool) (r : Reader α) (text : List Char) (v : α) : Prop :=
  ∀ rest, (∀ c ∈ rest.head?, more c = false) → r (text ++ rest) = some (v, rest)

/-- No character at all. -/
def never (_ : Char) : Bool := false

/-- A reader that knows its end may be followed by anything. -/
theorem Reads.bind {more : Char → Bool} {r : Reader α} {f : α → Reader β} {text text' : List Char}
    {v : α} {w : β} (h : Reads never r text v) (hf : Reads more (f v) text' w) :
    Reads more (r >>= f) (text ++ text') w := by
  intro rest hrest
  have hfirst : r (text ++ (text' ++ rest)) = some (v, text' ++ rest) := h _ fun _ _ => rfl
  change (r (text ++ text' ++ rest)).bind (fun out => f out.1 out.2) = _
  rw [List.append_assoc, hfirst]
  exact hf rest hrest

/-- A reader that goes on while it can has to be stopped by what is printed next. -/
theorem Reads.bind_of_head {more more' : Char → Bool} {r : Reader α} {f : α → Reader β}
    {text text' : List Char} {v : α} {w : β} {c : Char} (h : Reads more r text v)
    (hc : more c = false) (hf : Reads more' (f v) (c :: text') w) :
    Reads more' (r >>= f) (text ++ c :: text') w := by
  intro rest hrest
  have hfirst : r (text ++ (c :: text' ++ rest)) = some (v, c :: text' ++ rest) := by
    refine h _ fun d hd => ?_
    obtain rfl : c = d := Option.some.inj hd
    exact hc
  change (r (text ++ c :: text' ++ rest)).bind (fun out => f out.1 out.2) = _
  rw [List.append_assoc, hfirst]
  exact hf rest hrest

/-- At the end of a line. -/
theorem Reads.map {more : Char → Bool} {r : Reader α} {text : List Char} {v : α}
    (h : Reads more r text v) (f : α → β) :
    Reads more (do return f (← r)) text (f v) := by
  intro rest hrest
  change (r (text ++ rest)).bind (fun out => some (f out.1, out.2)) = _
  rw [h rest hrest]
  rfl

/-- A printed line is one that its reader takes in full. -/
theorem Reads.matchLine {more : Char → Bool} {r : Reader α} {text : List Char} {v : α}
    (h : Reads more r text v) : r.matchLine text = some v := by
  have hline : r text = some (v, []) := by
    simpa only [List.append_nil] using h [] fun c hc => absurd hc (Option.not_mem_none c)
  rw [Reader.matchLine, hline]

theorem reads_word (w : List Char) : Reads never (word w) w () := by
  intro rest _
  rw [word, if_pos (List.prefix_append w rest), List.drop_left]

/-- **Unique decoding.** If no word of the table begins another, each is read as itself. -/
theorem reads_oneOf {table : List (List Char × α)}
    (hfree : table.Pairwise fun x y => ¬ x.1 <+: y.1 ∧ ¬ y.1 <+: x.1) {w : List Char} {v : α}
    (hentry : (w, v) ∈ table) : Reads never (oneOf table) w v := by
  intro rest _
  induction table with
  | nil => exact absurd hentry List.not_mem_nil
  | cons x table ih =>
    rw [oneOf, List.findSome?_cons]
    rcases List.mem_cons.mp hentry with rfl | hmem
    · rw [reads_word w rest fun _ _ => rfl]
      rfl
    · -- an earlier word that fits would begin this one or be begun by it
      have hskip : word x.1 (w ++ rest) = none := by
        rw [word, if_neg]
        intro hfits
        have hor := List.prefix_or_prefix_of_prefix hfits (List.prefix_append w rest)
        obtain ⟨hleft, hright⟩ := List.rel_of_pairwise_cons hfree hmem
        exact hor.elim hleft hright
      rw [hskip]
      exact ih hfree.of_cons hmem

theorem reads_many1 {p : Char → Bool} {text : List Char} (hne : text ≠ [])
    (hall : ∀ c ∈ text, p c = true) : Reads p (many1 p) text text := by
  intro rest hrest
  have hstop : rest.takeWhile p = [] ∧ rest.dropWhile p = rest := by
    cases rest with
    | nil => exact ⟨rfl, rfl⟩
    | cons c rest =>
      have hc : p c = false := hrest c rfl
      simp [hc]
  have htake : (text ++ rest).takeWhile p = text := by
    rw [List.takeWhile_append_of_pos hall, hstop.1, List.append_nil]
  have hdrop : (text ++ rest).dropWhile p = rest := by
    rw [List.dropWhile_append_of_pos hall, hstop.2]
  rw [many1, htake, hdrop, if_neg hne]

theorem isDigit_of_mem_decimal {n : ℕ} {c : Char} (h : c ∈ decimal n) : c.isDigit = true :=
  Nat.isDigit_of_mem_toDigits (by omega) (by omega) h

theorem mem_signedDecimal {i : ℤ} {c : Char} (h : c ∈ signedDecimal i) :
    c = '-' ∨ c.isDigit = true := by
  rw [signedDecimal] at h
  split_ifs at h
  · exact (List.mem_cons.mp h).imp id isDigit_of_mem_decimal
  · exact Or.inr (isDigit_of_mem_decimal h)

theorem notMem_decimal {c : Char} (h : c.isDigit = false) (n : ℕ) : c ∉ decimal n :=
  fun hmem => Bool.false_ne_true (h.symm.trans (isDigit_of_mem_decimal hmem))

theorem notMem_signedDecimal {c : Char} (h : c.isDigit = false) (hdash : c ≠ '-') (i : ℤ) :
    c ∉ signedDecimal i :=
  fun hmem => (mem_signedDecimal hmem).elim hdash fun hdigit =>
    Bool.false_ne_true (h.symm.trans hdigit)

/-- A printed number is read back. -/
theorem reads_number (n : ℕ) : Reads Char.isDigit number (decimal n) n := by
  have hread : Reads Char.isDigit (many1 Char.isDigit) (decimal n) (decimal n) :=
    reads_many1 Nat.toDigits_ne_nil fun _ h => isDigit_of_mem_decimal h
  have hvalue : Nat.ofDigitChars 10 (decimal n) 0 = n := Nat.ofDigitChars_ten_toDigits
  have hmap := hread.map fun ds => Nat.ofDigitChars 10 ds 0
  rwa [hvalue] at hmap

/-- The sign is read back with what is printed behind it. -/
theorem reads_optNeg_neg [Neg α] {more : Char → Bool} {r : Reader α} {text : List Char} {v : α}
    (h : Reads more r text v) : Reads more (optNeg r) ('-' :: text) (-v) := by
  intro rest hrest
  change (r (text ++ rest)).map (fun out => (-out.1, out.2)) = _
  rw [h rest hrest]
  rfl

/-- What begins with a digit is read as it is. -/
theorem reads_optNeg [Neg α] {more : Char → Bool} {r : Reader α} {c : Char} {text : List Char}
    {v : α} (hc : c.isDigit = true) (h : Reads more r (c :: text) v) :
    Reads more (optNeg r) (c :: text) v := by
  intro rest hrest
  have hne : c ≠ '-' := by
    rintro rfl
    exact absurd hc (by decide)
  have hplain : optNeg r (c :: text ++ rest) = r (c :: text ++ rest) := by
    rw [List.cons_append, optNeg]
    intro digits hdigits
    exact absurd (List.cons.inj hdigits).1 hne
  rw [hplain]
  exact h rest hrest

/-- A decimal text begins with a digit. -/
theorem exists_decimal_eq_cons (n : ℕ) : ∃ c ds, decimal n = c :: ds ∧ c.isDigit = true := by
  obtain ⟨c, ds, hds⟩ : ∃ c ds, decimal n = c :: ds :=
    List.exists_cons_of_ne_nil Nat.toDigits_ne_nil
  exact ⟨c, ds, hds, isDigit_of_mem_decimal (hds ▸ List.mem_cons_self)⟩

/-- A printed number with its sign is read back. -/
theorem reads_integer (i : ℤ) : Reads Char.isDigit integer (signedDecimal i) i := by
  have hnumber := (reads_number i.natAbs).map fun n : ℕ => (n : ℤ)
  rw [signedDecimal]
  split_ifs with hneg
  · have hvalue : -(i.natAbs : ℤ) = i := by omega
    have hread := reads_optNeg_neg hnumber
    rwa [hvalue] at hread
  · have hvalue : (i.natAbs : ℤ) = i := by omega
    obtain ⟨c, ds, hds, hc⟩ := exists_decimal_eq_cons i.natAbs
    rw [hvalue, hds] at hnumber
    rw [hds]
    exact reads_optNeg hc hnumber

/-! ### Whole texts -/

/-- The lines of a text that was printed line by line. -/
theorem splitOn_unlines_append {ls : List (List Char)} (h : ∀ line ∈ ls, '\n' ∉ line)
    (text : List Char) : (unlines ls ++ text).splitOn '\n' = ls ++ text.splitOn '\n' := by
  induction ls with
  | nil => rfl
  | cons line ls ih =>
    have hline : '\n' ∉ line := h line List.mem_cons_self
    have htext : unlines (line :: ls) ++ text = line ++ '\n' :: (unlines ls ++ text) := by
      simp [unlines]
    rw [htext, List.splitOn_append_cons_self_of_not_mem hline, List.cons_append]
    exact congrArg _ (ih fun l hl => h l (List.mem_cons_of_mem line hl))

/-- The matches in a text printed line by line are those of its lines. -/
theorem findAll_unlines_append (r : Reader α) {ls : List (List Char)}
    (h : ∀ line ∈ ls, '\n' ∉ line) (text : List Char) :
    r.findAll (unlines ls ++ text) = ls.filterMap r.matchLine ++ r.findAll text := by
  rw [findAll, splitOn_unlines_append h, List.filterMap_append, findAll]

/-- A place where the reader fails is passed over. -/
theorem search_cons {r : Reader α} {c : Char} {rest : List Char} (h : r (c :: rest) = none) :
    r.search (c :: rest) = r.search rest := by
  rw [search, List.tails_cons, List.findSome?_cons, h]
  rfl

/-- What stands at the front is found first. -/
theorem search_append {more : Char → Bool} {r : Reader α} {text : List Char} {v : α}
    (h : Reads more r text v) {rest : List Char} (hrest : ∀ c ∈ rest.head?, more c = false) :
    r.search (text ++ rest) = some v := by
  have hfront := h rest hrest
  rw [search]
  cases hall : text ++ rest with
  | nil => simp [← hall, hfront]
  | cons c cs =>
    rw [List.tails_cons, List.findSome?_cons, ← hall, hfront]
    rfl

/-- Without the word there is nothing to read. -/
theorem word_bind_eq_none {w text : List Char} (h : ¬ w <+: text) (f : Unit → Reader α) :
    (word w >>= f) text = none := by
  change (word w text).bind (fun out => f out.1 out.2) = none
  rw [word, if_neg h]
  rfl

/-- A text that lacks a character of the word is searched in vain. -/
theorem search_eq_none {w : List Char} {c : Char} (hc : c ∈ w) {text : List Char} (h : c ∉ text)
    (f : Unit → Reader α) : (word w >>= f).search text = none := by
  have hfail : ∀ rest ∈ text.tails, (word w >>= f) rest = none := by
    intro rest hrest
    have hsuffix : rest <:+ text := (List.mem_tails _ _).mp hrest
    exact word_bind_eq_none (fun hpre => h (hsuffix.mem (hpre.mem hc))) f
  rw [search, List.findSome?_eq_none_iff]
  intro rest hrest
  rw [hfail rest hrest]
  rfl

/-- A part that lacks the first character of the word is passed over. -/
theorem search_append_of_notMem {c : Char} {w part : List Char} (h : c ∉ part)
    (f : Unit → Reader α) (rest : List Char) :
    (word (c :: w) >>= f).search (part ++ rest) = (word (c :: w) >>= f).search rest := by
  induction part with
  | nil => rfl
  | cons d part ih =>
    have hno : ¬ c :: w <+: d :: part ++ rest :=
      fun hpre => h ((List.cons_prefix_cons.mp hpre).1 ▸ List.mem_cons_self)
    have hskip := search_cons (word_bind_eq_none hno f)
    exact hskip.trans (ih fun hmem => h (List.mem_cons_of_mem d hmem))

/-- A line that lacks a character of the word is passed over. -/
theorem search_skip {w : List Char} (hw : '\n' ∉ w) {c : Char} (hc : c ∈ w) {line : List Char}
    (hline : c ∉ line) (f : Unit → Reader α) (rest : List Char) :
    (word w >>= f).search (line ++ '\n' :: rest) = (word w >>= f).search rest := by
  induction line with
  | nil =>
    have hno : ¬ w <+: '\n' :: rest := by
      cases w with
      | nil => exact absurd hc List.not_mem_nil
      | cons d w =>
        intro hpre
        exact hw ((List.cons_prefix_cons.mp hpre).1 ▸ List.mem_cons_self)
    rw [List.nil_append, search_cons (word_bind_eq_none hno f)]
  | cons d line ih =>
    have hno : ¬ w <+: d :: line ++ '\n' :: rest := by
      intro hpre
      rcases List.prefix_or_prefix_of_prefix hpre (List.prefix_append (d :: line) _) with
        hin | ⟨tail, rfl⟩
      · exact hline (hin.mem hc)
      · -- the word goes on past the end of the line
        have htail := (List.prefix_append_right_inj (d :: line)).mp hpre
        cases tail with
        | nil => exact hline (by simpa using hc)
        | cons e tail =>
          obtain rfl : e = '\n' := (List.cons_prefix_cons.mp htail).1
          exact hw (List.mem_append_right _ List.mem_cons_self)
    have hline' : c ∉ line := fun h => hline (List.mem_cons_of_mem d h)
    exact (search_cons (word_bind_eq_none hno f)).trans (ih hline')

end Reader

end EnvMonitor
