import PageCensus.CountFile
import PageCensus.Proofs.Tally.Ranking
import PageCensus.Proofs.Text.Digits
import PageCensus.Text.Blank

/-!
# Reading count files

The keys of a count file are written as they are, without quotes or escapes, so what ends a key or a
line elsewhere may be part of a key here: the line feed is a character that is counted like any
other, and a word may hold an equals sign.  The files can be read all the same, because it is known
where a key ends before it is looked at: a character is one character long, and a word goes up to
the first space.

* `KeyReader`, `charKey`, `wordKey` — how the key in front of a line is read.
* `readCount`, `readEntry`, `decode` — how everything else is.
* `decode_render` — a count file is read as the ranking of the tally that was written.
* `render_injective` — different tallies have different files.
-/

set_option autoImplicit false

namespace PageCensus
namespace CountFile

variable {κ : Type}

/-! ## Readers -/

/-- A way to read a key in front of a text. -/
structure KeyReader (κ : Type) where
  /-- The key, and what follows it. -/
  read : List Char → Option (κ × List Char)
  /-- Reading a key makes no text longer. -/
  length_le : ∀ {text rest : List Char} {key : κ},
    read text = some (key, rest) → rest.length ≤ text.length

/-- A character is the first of the text, whatever it is. -/
def charKey : KeyReader Char where
  read
    | [] => none
    | c :: rest => some (c, rest)
  length_le {text rest key} h := by
    cases text with
    | nil => cases h
    | cons c text => cases h; exact Nat.le_succ _

/-- A word goes up to the first space. -/
def wordKey : KeyReader String where
  read text := some (String.ofList (text.takeWhile (· != ' ')), text.dropWhile (· != ' '))
  length_le {text rest key} h := by
    cases h
    exact (List.dropWhile_suffix _).length_le

/-- The number in front of a text, if a line feed follows it, and what follows that. -/
def readCount (text : List Char) : Option (Nat × List Char) :=
  match text.dropWhile Char.isDigit with
  | '\n' :: rest => some (Nat.ofDigitChars 10 (text.takeWhile Char.isDigit) 0, rest)
  | _ => none

/-- The entry in the line in front of a text, and what follows the line. -/
def readEntry (keys : KeyReader κ) (text : List Char) : Option (Entry κ × List Char) :=
  match keys.read text with
  | some (key, ' ' :: '=' :: ' ' :: rest) =>
    (readCount rest).map fun (count, rest) => (⟨key, count⟩, rest)
  | _ => none

theorem length_le_of_readCount {text rest : List Char} {n : Nat}
    (h : readCount text = some (n, rest)) : rest.length ≤ text.length := by
  rw [readCount] at h
  split at h
  · next after hafter =>
    cases h
    have hle := (List.dropWhile_suffix Char.isDigit (l := text)).length_le
    rw [hafter, List.length_cons] at hle
    omega
  · cases h

/-- Every line takes some of the text, so that reading line after line comes to an end. -/
theorem length_lt_of_readEntry {keys : KeyReader κ} {text rest : List Char} {entry : Entry κ}
    (h : readEntry keys text = some (entry, rest)) : rest.length < text.length := by
  rw [readEntry] at h
  split at h
  · next key after hread =>
    obtain ⟨⟨n, last⟩, hcount, hlast⟩ := Option.map_eq_some_iff.1 h
    cases hlast
    have hkey := keys.length_le hread
    have hle := length_le_of_readCount hcount
    simp only [List.length_cons] at hkey
    omega
  · cases h

/-- The entries in the lines of a text, if it consists of nothing but such lines. -/
def decode (keys : KeyReader κ) (text : List Char) : Option (List (Entry κ)) :=
  if text.isEmpty then some []
  else
    match h : readEntry keys text with
    | none => none
    | some (entry, rest) =>
      have : rest.length < text.length := length_lt_of_readEntry h
      (decode keys rest).map (entry :: ·)
termination_by text.length

/-- The entries of a file with the counts of characters. -/
def decodeChars (text : String) : Option (List (Entry Char)) := decode charKey text.toList

/-- The entries of a file with the counts of words. -/
def decodeWords (text : String) : Option (List (Entry String)) := decode wordKey text.toList

/-! ## Reading what was written -/

theorem decode_nil (keys : KeyReader κ) : decode keys [] = some [] := by
  rw [decode]
  rfl

theorem decode_of_readEntry {keys : KeyReader κ} {text rest : List Char} {entry : Entry κ}
    (h : readEntry keys text = some (entry, rest)) :
    decode keys text = (decode keys rest).map (entry :: ·) := by
  have hne : ¬ text.isEmpty = true := by
    intro hempty
    have hlt := length_lt_of_readEntry h
    rw [List.isEmpty_iff.1 hempty] at hlt
    exact Nat.not_lt_zero _ hlt
  rw [decode, if_neg hne]
  split
  · next hnone => rw [hnone] at h; cases h
  · next hsome => rw [hsome] at h; cases h; rfl

/-- A number is read to its end. -/
theorem readCount_append (n : Nat) (rest : List Char) :
    readCount ((toString n).toList ++ '\n' :: rest) = some (n, rest) := by
  have hdigits : ∀ c ∈ (toString n).toList, c.isDigit = true := fun _ => isDigit_of_mem_toString
  have hdrop : ((toString n).toList ++ '\n' :: rest).dropWhile Char.isDigit = '\n' :: rest :=
    List.dropWhile_append_of_pos hdigits
  have htake : ((toString n).toList ++ '\n' :: rest).takeWhile Char.isDigit =
      (toString n).toList := by
    rw [List.takeWhile_append_of_pos hdigits]
    exact List.append_nil _
  rw [readCount, hdrop, htake, Nat.toString_eq_repr, Nat.toList_repr, Nat.ofDigitChars_ten_toDigits]
  rfl

variable [Token κ]

/-- Whether a key is read as it was written, with whatever behind the space that follows it. -/
def KeyReader.Reads (keys : KeyReader κ) (key : κ) : Prop :=
  ∀ rest, keys.read ((Token.text key).toList ++ ' ' :: rest) = some (key, ' ' :: rest)

/-- Every character is read as it was written, be it a space, an equals sign, a digit or a line
feed. -/
theorem reads_charKey (c : Char) : charKey.Reads c := by
  intro rest
  have htext : (Token.text c).toList = [c] := String.toList_singleton c
  rw [htext]
  rfl

/-- A word without spaces is read as it was written. -/
theorem reads_wordKey {word : String} (h : ' ' ∉ word.toList) : wordKey.Reads word := by
  intro rest
  have hkey : ∀ c ∈ word.toList, (c != ' ') = true := by
    intro c hc
    rw [bne_iff_ne]
    rintro rfl
    exact h hc
  have htake : (word.toList ++ ' ' :: rest).takeWhile (· != ' ') = word.toList := by
    rw [List.takeWhile_append_of_pos hkey]
    exact List.append_nil _
  have hdrop : (word.toList ++ ' ' :: rest).dropWhile (· != ' ') = ' ' :: rest :=
    List.dropWhile_append_of_pos hkey
  show some (String.ofList ((word.toList ++ ' ' :: rest).takeWhile (· != ' ')),
    (word.toList ++ ' ' :: rest).dropWhile (· != ' ')) = _
  rw [htake, hdrop, String.ofList_toList]

/-- **A line is read as the entry that was written**, whatever stands behind it. -/
theorem readEntry_line {keys : KeyReader κ} {entry : Entry κ} (h : keys.Reads entry.key)
    (rest : List Char) :
    readEntry keys ((line entry).toList ++ rest) = some (entry, rest) := by
  have hline : (line entry).toList ++ rest =
      (Token.text entry.key).toList ++ ' ' :: '=' :: ' ' ::
        ((toString entry.count).toList ++ '\n' :: rest) := by
    rw [line, String.toList_append, String.toList_append, String.toList_append]
    simp only [List.append_assoc]
    rfl
  rw [readEntry, hline, h]
  show (readCount _).map _ = _
  rw [readCount_append]
  rfl

/-- **Lines are read as the entries that were written**, in the same order. -/
theorem decode_lines {keys : KeyReader κ} {entries : List (Entry κ)}
    (h : ∀ entry ∈ entries, keys.Reads entry.key) :
    decode keys (String.join (entries.map line)).toList = some entries := by
  induction entries with
  | nil => exact decode_nil keys
  | cons entry rest ih =>
    obtain ⟨hfirst, hrest⟩ := List.forall_mem_cons.1 h
    rw [List.map_cons, String.join_cons, String.toList_append,
      decode_of_readEntry (readEntry_line hfirst _), ih hrest]
    rfl

/-- **A count file is read as the ranking** of the tally that was written. -/
theorem decode_render {keys : KeyReader κ} {tally : Tally κ} (h : ∀ key ∈ tally, keys.Reads key) :
    decode keys (render tally).toList = some tally.ranked := by
  refine decode_lines fun entry hentry => h entry.key ?_
  have hsome := ((Tally.isRanking_ranked tally).mem_iff entry).1 hentry
  rw [Std.ExtTreeMap.mem_iff_isSome_getElem?, hsome]
  rfl

/-- **Different tallies have different files.** -/
theorem render_injective {keys : KeyReader κ} {s t : Tally κ} (hs : ∀ key ∈ s, keys.Reads key)
    (ht : ∀ key ∈ t, keys.Reads key) (h : (render s).toUTF8 = (render t).toUTF8) : s = t := by
  have hranked : some s.ranked = some t.ranked := by
    rw [← decode_render hs, ← decode_render ht, String.toByteArray_inj.1 h]
  refine (Tally.isRanking_ranked s).tally_eq ?_
  rw [Option.some_inj.1 hranked]
  exact Tally.isRanking_ranked t

/-! ## The two kinds of files -/

/-- Whether the words of a tally hold no blanks.  One of them may be empty. -/
def BlankFree (tally : Tally String) : Prop := ∀ word ∈ tally, ∀ c ∈ word.toList, isBlank c = false

theorem BlankFree.reads {tally : Tally String} (h : BlankFree tally) :
    ∀ word ∈ tally, wordKey.Reads word := by
  refine fun word hword => reads_wordKey fun hspace => ?_
  have hblank : isBlank ' ' = true := by decide
  rw [h word hword ' ' hspace] at hblank
  cases hblank

theorem decodeChars_render (tally : Tally Char) : decodeChars (render tally) = some tally.ranked :=
  decode_render fun c _ => reads_charKey c

theorem decodeWords_render {tally : Tally String} (h : BlankFree tally) :
    decodeWords (render tally) = some tally.ranked := decode_render h.reads

end CountFile
end PageCensus
