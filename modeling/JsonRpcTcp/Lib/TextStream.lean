import Mathlib

universe u

/-! Input streams over a text, as `istream` reads them. -/

/-- What is left of the text, and the state bits of the stream. -/
structure TextStream (α : Type u) where
  rest : List α
  eofbit : Bool
  failbit : Bool
  deriving DecidableEq, Repr

namespace TextStream
variable {α : Type u}

/-- A stream that is opened on a text. -/
def ofText (text : List α) : TextStream α := ⟨text, false, false⟩

def good (s : TextStream α) : Bool := !s.eofbit && !s.failbit

/-- `operator>>` into a string: white space is skipped, a word is read. -/
def word (space : α → Bool) (s : TextStream α) : List α × TextStream α :=
  if s.good then
    let text := s.rest.dropWhile space
    let word := text.takeWhile fun c => !space c
    let rest := text.dropWhile fun c => !space c
    (word, ⟨rest, rest.isEmpty, word.isEmpty⟩)
  else ([], { s with failbit := true })

/-- `getline`: the text before the delimiter, which is removed. -/
def getline [DecidableEq α] (delim : α) (s : TextStream α) : List α × TextStream α :=
  if s.good then
    let line := s.rest.takeWhile fun c => c ≠ delim
    match s.rest.dropWhile fun c => c ≠ delim with
    | [] => (line, ⟨[], true, line.isEmpty⟩)
    | _ :: rest => (line, ⟨rest, false, false⟩)
  else ([], { s with failbit := true })

/-- The loop `while (stream.good()) getline(stream, piece, delim)`: its pieces. -/
def goodLoop [DecidableEq α] (delim : α) : Nat → TextStream α → List (List α)
  | 0, _ => []
  | fuel + 1, s =>
    if s.good then (s.getline delim).1 :: goodLoop delim fuel (s.getline delim).2
    else []

/-- The loop `while (read(stream, text))`: its texts. -/
def readLoop (read : TextStream α → List α × TextStream α) : Nat → TextStream α → List (List α)
  | 0, _ => []
  | fuel + 1, s => if (read s).2.failbit then [] else (read s).1 :: readLoop read fuel (read s).2

/-- A bound for the rounds of a loop. -/
def size (s : TextStream α) : Nat := s.rest.length + if s.eofbit then 0 else 1

/-- The pieces of a text between its delimiters. -/
def pieces [DecidableEq α] (delim : α) (text : List α) : List (List α) :=
  goodLoop delim (ofText text).size (ofText text)

/-- The lines of a file. -/
def lines [DecidableEq α] (newline : α) (text : List α) : List (List α) :=
  readLoop (getline newline) (ofText text).size (ofText text)

/-- The words of a text. -/
def words (space : α → Bool) (text : List α) : List (List α) :=
  readLoop (word space) (ofText text).size (ofText text)

section Getline
variable [DecidableEq α] {delim : α}

theorem getline_found {line rest : List α} (inside : delim ∉ line) :
    (ofText (line ++ delim :: rest)).getline delim = (line, ofText rest) := by
  have before : ∀ c ∈ line, decide (c ≠ delim) = true := by
    intro c member
    exact decide_eq_true fun same => inside (same ▸ member)
  have taken : (line ++ delim :: rest).takeWhile (fun c => decide (c ≠ delim)) = line := by
    rw [List.takeWhile_append_of_pos before]
    simp
  have dropped : (line ++ delim :: rest).dropWhile (fun c => decide (c ≠ delim)) = delim :: rest := by
    rw [List.dropWhile_append_of_pos before]
    simp
  simp only [getline, ofText, good, Bool.not_false, Bool.and_self, if_true, taken, dropped]

theorem getline_last {line : List α} (inside : delim ∉ line) :
    (ofText line).getline delim = (line, ⟨[], true, line.isEmpty⟩) := by
  have before : ∀ c ∈ line, decide (c ≠ delim) = true := by
    intro c member
    exact decide_eq_true fun same => inside (same ▸ member)
  have taken : line.takeWhile (fun c => decide (c ≠ delim)) = line := List.takeWhile_eq_self_iff.mpr before
  have dropped : line.dropWhile (fun c => decide (c ≠ delim)) = [] := List.dropWhile_eq_nil_iff.mpr before
  simp only [getline, ofText, good, Bool.not_false, Bool.and_self, if_true, taken, dropped]

/-- A text up to its first delimiter. -/
theorem split_delim (delim : α) (text : List α) :
    delim ∉ text ∨ ∃ line rest, delim ∉ line ∧ text = line ++ delim :: rest := by
  by_cases inside : delim ∈ text
  · obtain ⟨line, rest, same, absent⟩ := List.eq_append_cons_of_mem inside
    exact .inr ⟨line, rest, absent, same⟩
  · exact .inl inside

/-- No text that was read contains the delimiter. -/
theorem getline_single (delim : α) (s : TextStream α) : delim ∉ (s.getline delim).1 := by
  have taken : delim ∉ s.rest.takeWhile fun c => decide (c ≠ delim) := by
    intro member
    have different := List.mem_takeWhile_imp member
    exact of_decide_eq_true different (Eq.refl delim)
  unfold getline
  split_ifs
  · dsimp only
    split
    · exact taken
    · exact taken
  · exact List.not_mem_nil

/-- The loop over a good stream splits the text: also an empty text and the text behind
a final delimiter are pieces. -/
theorem pieces_eq_splitOn (delim : α) (text : List α) : pieces delim text = text.splitOn delim := by
  have loop : ∀ fuel : Nat, ∀ text : List α, text.length < fuel → goodLoop delim fuel (ofText text) = text.splitOn delim := by
    intro fuel
    induction fuel with
    | zero =>
      intro text bound
      exact absurd bound (Nat.not_lt_zero _)
    | succ fuel ih =>
      intro text bound
      have isGood : (ofText text).good = true := rfl
      rcases split_delim delim text with absent | ⟨line, rest, absent, rfl⟩
      · have ended : ∀ fuel : Nat, goodLoop delim fuel (⟨[], true, text.isEmpty⟩ : TextStream α) = [] := by
          intro fuel
          cases fuel with
          | zero => rfl
          | succ fuel => rfl
        rw [goodLoop, if_pos isGood, getline_last absent, ended, List.splitOn_eq_singleton absent]
      · have shorter : rest.length < fuel := by
          rw [List.length_append, List.length_cons] at bound
          omega
        rw [goodLoop, if_pos isGood, getline_found absent, ih rest shorter,
          List.splitOn_append_cons_self_of_not_mem absent]
  exact loop _ text (Nat.lt_succ_self text.length)

/-- The pieces have all that is in the text but the delimiters. -/
theorem exists_splitOn {c : α} (kept : c ≠ delim) (text : List α) :
    (∃ piece ∈ text.splitOn delim, c ∈ piece) ↔ c ∈ text := by
  induction same : text.length using Nat.strongRecOn generalizing text with
  | ind length ih =>
    rcases split_delim delim text with absent | ⟨line, rest, absent, rfl⟩
    · rw [List.splitOn_eq_singleton absent]
      simp
    · have shorter : rest.length < length := by
        rw [List.length_append, List.length_cons] at same
        omega
      have tail := ih rest.length shorter rest rfl
      rw [List.splitOn_append_cons_self_of_not_mem absent]
      simp only [List.mem_cons, exists_eq_or_imp, List.mem_append]
      rw [tail]
      simp [kept]

theorem length_splitOn {piece text : List α} (member : piece ∈ text.splitOn delim) : piece.length ≤ text.length := by
  induction same : text.length using Nat.strongRecOn generalizing text with
  | ind length ih =>
    rcases split_delim delim text with absent | ⟨line, rest, absent, rfl⟩
    · rw [List.splitOn_eq_singleton absent] at member
      rw [List.mem_singleton.mp member, same]
    · rw [List.length_append, List.length_cons] at same
      rw [List.splitOn_append_cons_self_of_not_mem absent] at member
      rcases List.mem_cons.mp member with rfl | later
      · omega
      · have tail := ih rest.length (by omega) later rfl
        omega

theorem getline_shrinks (s : TextStream α) (read : (s.getline delim).2.failbit = false) :
    (s.getline delim).2.size < s.size := by
  unfold getline at read ⊢
  split_ifs at read ⊢ with isGood
  · have noEof : s.eofbit = false := by
      have both := isGood
      unfold good at both
      simpa using (Bool.and_eq_true_iff.mp both).1
    dsimp only at read ⊢
    have whole := congrArg List.length (List.takeWhile_append_dropWhile (p := fun c => decide (c ≠ delim)) (l := s.rest))
    rw [List.length_append] at whole
    split at read
    case h_1 ended =>
      rw [ended] at whole
      simp [size, noEof]
    case h_2 delimiter rest found =>
      rw [found, List.length_cons] at whole
      simp only [size, noEof, Bool.false_eq_true, if_false]
      omega

end Getline

/-- A bound that is large enough for the rounds makes no difference. -/
theorem readLoop_fuel {read : TextStream α → List α × TextStream α}
    (shrinks : ∀ s, (read s).2.failbit = false → (read s).2.size < s.size) {fuel more : Nat} {s : TextStream α}
    (enough : s.size ≤ fuel) (enough' : s.size ≤ more) : readLoop read fuel s = readLoop read more s := by
  induction fuel generalizing more s with
  | zero =>
    have fails : (read s).2.failbit = true := by
      by_contra succeeds
      have smaller := shrinks s (Bool.eq_false_iff.mpr succeeds)
      omega
    cases more with
    | zero => rfl
    | succ more => rw [readLoop, readLoop, if_pos fails]
  | succ fuel ih =>
    by_cases fails : (read s).2.failbit = true
    · cases more with
      | zero => rw [readLoop, readLoop, if_pos fails]
      | succ more => rw [readLoop, readLoop, if_pos fails, if_pos fails]
    · have smaller := shrinks s (Bool.eq_false_iff.mpr fails)
      cases more with
      | zero => omega
      | succ more => rw [readLoop, readLoop, if_neg fails, if_neg fails, ih (by omega) (by omega : _ ≤ more)]

section Lines
variable [DecidableEq α] {newline : α}

/-- A line in front of the rest of a file. -/
theorem lines_cons {line : List α} (rest : List α) (single : newline ∉ line) :
    lines newline (line ++ newline :: rest) = line :: lines newline rest := by
  have first : ∀ fuel : Nat, readLoop (getline newline) (fuel + 1) (ofText (line ++ newline :: rest)) =
      line :: readLoop (getline newline) fuel (ofText rest) := by
    intro fuel
    rw [readLoop, getline_found single]
    rfl
  have room : (ofText (line ++ newline :: rest)).size = line.length + (rest.length + 1) + 1 := by
    simp [size, ofText]
  have enough : (ofText rest).size ≤ line.length + (rest.length + 1) := by
    simp only [size, ofText]
    simp
  unfold lines
  rw [room, first, readLoop_fuel getline_shrinks enough le_rfl]

theorem lines_nil : lines newline [] = [] := rfl

/-- A file of whole lines. -/
theorem lines_flatMap {texts : List (List α)} (single : ∀ text ∈ texts, newline ∉ text) :
    lines newline (texts.flatMap fun text => text ++ [newline]) = texts := by
  induction texts with
  | nil => exact lines_nil
  | cons text texts ih =>
    have tail := ih fun other member => single other (List.mem_cons_of_mem text member)
    rw [List.flatMap_cons, List.append_assoc, List.singleton_append,
      lines_cons _ (single text List.mem_cons_self), tail]

end Lines

section Word
variable {space : α → Bool}

theorem word_shrinks (s : TextStream α) (read : (s.word space).2.failbit = false) : (s.word space).2.size < s.size := by
  unfold word at read ⊢
  split_ifs at read ⊢ with isGood
  · have noEof : s.eofbit = false := by
      have both := isGood
      unfold good at both
      simpa using (Bool.and_eq_true_iff.mp both).1
    dsimp only at read ⊢
    have whole := congrArg List.length
      (List.takeWhile_append_dropWhile (p := fun c => !space c) (l := s.rest.dropWhile space))
    have skipped := (List.dropWhile_sublist space (l := s.rest)).length_le
    have found : 0 < ((s.rest.dropWhile space).takeWhile fun c => !space c).length := by
      refine List.length_pos_of_ne_nil fun empty => ?_
      rw [empty] at read
      exact Bool.noConfusion read
    rw [List.length_append] at whole
    simp only [size, noEof, Bool.false_eq_true, if_false]
    split_ifs
    · omega
    · omega

/-- The bound in `words` lets its loop end. -/
theorem words_fuel {text : List α} {fuel : Nat} (enough : text.length < fuel) :
    readLoop (word space) fuel (ofText text) = words space text :=
  readLoop_fuel word_shrinks enough le_rfl

theorem word_split {blanks text : List α} (skipped : ∀ c ∈ blanks, space c = true) (nonempty : text ≠ [])
    (kept : ∀ c ∈ text, space c = false) {rest : List α} (ends : ∀ c ∈ rest.head?, space c = true) :
    (ofText (blanks ++ (text ++ rest))).word space = (text, ⟨rest, rest.isEmpty, false⟩) := by
  obtain ⟨first, others, rfl⟩ := List.exists_cons_of_ne_nil nonempty
  have front : space first = false := kept first List.mem_cons_self
  have letters : ∀ c ∈ first :: others, (!space c) = true := fun c member => by rw [kept c member]; rfl
  have begun : (blanks ++ (first :: others ++ rest)).dropWhile space = first :: others ++ rest := by
    rw [List.dropWhile_append_of_pos skipped, List.cons_append, List.dropWhile_cons, front]
    rfl
  have stop : (rest.takeWhile fun c => !space c) = [] ∧ (rest.dropWhile fun c => !space c) = rest := by
    cases rest with
    | nil => exact ⟨rfl, rfl⟩
    | cons c rest =>
      have blank : space c = true := ends c rfl
      rw [List.takeWhile_cons, List.dropWhile_cons, blank]
      exact ⟨rfl, rfl⟩
  have isGood : (ofText (blanks ++ (first :: others ++ rest))).good = true := rfl
  unfold word
  rw [if_pos isGood]
  simp only [ofText, begun]
  rw [List.takeWhile_append_of_pos letters, List.dropWhile_append_of_pos letters, stop.1, stop.2, List.append_nil]
  rfl

/-- A text of white space has no words. -/
theorem words_blank {text : List α} (blank : ∀ c ∈ text, space c = true) : words space text = [] := by
  have skipped : text.dropWhile space = [] := List.dropWhile_eq_nil_iff.mpr blank
  have isGood : (ofText text).good = true := rfl
  have fails : ((ofText text).word space).2.failbit = true := by
    unfold word
    rw [if_pos isGood]
    simp [ofText, skipped]
  show readLoop (word space) (text.length + 1) (ofText text) = []
  rw [readLoop, if_pos fails]

/-- The first word of a text, and the words behind it. -/
theorem words_split {blanks text rest : List α} (skipped : ∀ c ∈ blanks, space c = true) (nonempty : text ≠ [])
    (kept : ∀ c ∈ text, space c = false) (ends : ∀ c ∈ rest.head?, space c = true) :
    words space (blanks ++ (text ++ rest)) = text :: words space rest := by
  have first := word_split skipped nonempty kept ends
  have positive := List.length_pos_of_ne_nil nonempty
  have longer : rest.length < (blanks ++ (text ++ rest)).length := by
    rw [List.length_append, List.length_append]
    omega
  have later : readLoop (word space) (blanks ++ (text ++ rest)).length ⟨rest, rest.isEmpty, false⟩ = words space rest := by
    cases rest with
    | nil =>
      obtain ⟨fuel, same⟩ := Nat.exists_eq_succ_of_ne_zero (Nat.ne_of_gt longer)
      rw [same]
      rfl
    | cons c rest => exact words_fuel longer
  show readLoop (word space) ((blanks ++ (text ++ rest)).length + 1) (ofText (blanks ++ (text ++ rest))) = _
  rw [readLoop, first, later]
  rfl

/-- A text is white space, or a word and a text that goes on with white space. -/
theorem words_induction (space : α → Bool) {motive : List α → Prop}
    (blank : ∀ text, (∀ c ∈ text, space c = true) → motive text)
    (word : ∀ blanks text rest, (∀ c ∈ blanks, space c = true) → text ≠ [] → (∀ c ∈ text, space c = false) →
      (∀ c ∈ rest.head?, space c = true) → motive rest → motive (blanks ++ (text ++ rest)))
    (text : List α) : motive text := by
  induction same : text.length using Nat.strongRecOn generalizing text with
  | ind length ih =>
    by_cases only : ∀ c ∈ text, space c = true
    · exact blank text only
    · have whole := List.takeWhile_append_dropWhile (p := space) (l := text)
      have whole' := List.takeWhile_append_dropWhile (p := fun c => !space c) (l := text.dropWhile space)
      have skipped : ∀ c ∈ text.takeWhile space, space c = true := fun c member => List.mem_takeWhile_imp member
      have kept : ∀ c ∈ (text.dropWhile space).takeWhile fun c => !space c, space c = false := fun c member => by
        simpa using List.mem_takeWhile_imp member
      have ends : ∀ c ∈ ((text.dropWhile space).dropWhile fun c => !space c).head?, space c = true := by
        intro c first
        have stopped := List.head?_dropWhile_not (fun c => !space c) (text.dropWhile space)
        rw [first] at stopped
        simpa using stopped
      have nonempty : ((text.dropWhile space).takeWhile fun c => !space c) ≠ [] := by
        intro empty
        have left : text.dropWhile space ≠ [] := fun none => only (List.dropWhile_eq_nil_iff.mp none)
        obtain ⟨c, rest, first⟩ := List.exists_cons_of_ne_nil left
        have stopped := List.head?_dropWhile_not space text
        rw [first] at stopped empty
        simp only [List.head?_cons] at stopped
        simp [stopped] at empty
      have positive := List.length_pos_of_ne_nil nonempty
      have lengths := congrArg List.length whole
      have lengths' := congrArg List.length whole'
      rw [List.length_append] at lengths lengths'
      have step := word _ _ _ skipped nonempty kept ends
        (ih ((text.dropWhile space).dropWhile fun c => !space c).length (by omega) _ rfl)
      rw [whole', whole] at step
      exact step

/-- What is in a word is in the text. -/
theorem mem_words {piece text : List α} (member : piece ∈ words space text) :
    ∀ c ∈ piece, c ∈ text ∧ space c = false := by
  induction text using words_induction space with
  | blank text only =>
    rw [words_blank only] at member
    exact absurd member List.not_mem_nil
  | word blanks first rest skipped nonempty kept ends ih =>
    intro c inside
    rw [words_split skipped nonempty kept ends] at member
    rw [List.mem_append, List.mem_append]
    rcases List.mem_cons.mp member with rfl | later
    · exact ⟨.inr (.inl inside), kept c inside⟩
    · have both := ih later c inside
      exact ⟨.inr (.inr both.1), both.2⟩

/-- White space in front of a text makes no difference. -/
theorem words_append_blank {blanks : List α} (skipped : ∀ c ∈ blanks, space c = true) (text : List α) :
    words space (blanks ++ text) = words space text := by
  have joined : ∀ {more : List α}, (∀ c ∈ more, space c = true) → ∀ c ∈ blanks ++ more, space c = true := by
    intro more only c member
    rcases List.mem_append.mp member with front | back
    · exact skipped c front
    · exact only c back
  induction text using words_induction space with
  | blank text only => rw [words_blank only, words_blank (joined only)]
  | word more first rest skipped' nonempty kept ends ih =>
    rw [← List.append_assoc, words_split (joined skipped') nonempty kept ends,
      words_split skipped' nonempty kept ends]

/-- The words of a first line are words of the text. -/
theorem words_line {piece line : List α} (member : piece ∈ words space line) {c : α} (blank : space c = true)
    (rest : List α) : piece ∈ words space (line ++ c :: rest) := by
  induction line using words_induction space with
  | blank line only =>
    rw [words_blank only] at member
    exact absurd member List.not_mem_nil
  | word blanks first more skipped nonempty kept ends ih =>
    have ends' : ∀ d ∈ (more ++ c :: rest).head?, space d = true := by
      intro d here
      cases more with
      | nil =>
        cases here
        exact blank
      | cons e more => exact ends d here
    rw [words_split skipped nonempty kept ends] at member
    rw [List.append_assoc, List.append_assoc, words_split skipped nonempty kept ends']
    rcases List.mem_cons.mp member with rfl | later
    · exact List.mem_cons_self
    · exact List.mem_cons_of_mem first (ih later)

/-- The words of a text whose bytes were changed, but for its white space. -/
theorem words_map {f : α → α} (same : ∀ c, space (f c) = space c) (text : List α) :
    words space (text.map f) = (words space text).map (List.map f) := by
  have mapped : ∀ {part : List α} {value : Bool}, (∀ c ∈ part, space c = value) → ∀ c ∈ part.map f, space c = value := by
    intro part value all c member
    obtain ⟨d, inside, rfl⟩ := List.mem_map.mp member
    exact (same d).trans (all d inside)
  induction text using words_induction space with
  | blank text only =>
    rw [words_blank only, words_blank (mapped only)]
    rfl
  | word blanks first rest skipped nonempty kept ends ih =>
    have filled : first.map f ≠ [] := fun empty => nonempty (List.map_eq_nil_iff.mp empty)
    have ends' : ∀ c ∈ (rest.map f).head?, space c = true := by
      intro c here
      rw [List.head?_map, Option.mem_map] at here
      obtain ⟨d, first, rfl⟩ := here
      exact (same d).trans (ends d first)
    rw [List.map_append, List.map_append, words_split (mapped skipped) filled (mapped kept) ends',
      words_split skipped nonempty kept ends, ih]
    rfl

end Word
end TextStream
