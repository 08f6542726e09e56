import JobShell.Prompt
import Mathlib.Data.List.Infix
import Mathlib.Data.List.Zip
import Mathlib.Tactic.LinearCombination

/-!
# Filling in the marks of a template

A template is scanned once from the left, and each mark in it gives way to what it stands for.
The directory is looked for in the text that already shows the user, so a name that brings the
directory's mark with it, alone or with the characters around it, is not shown as it is.
-/

namespace JobShell.Prompt

set_option autoImplicit false

def occurrences (mark text : List Char) : Nat :=
  text.tails.countP mark.isPrefixOf

/-- A template that is scanned once, and the text in which the user and the directory stand for
their marks and every other character stands for itself. -/
inductive FillsIn (user directory : List Char) : List Char → List Char → Prop where
  | nothing : FillsIn user directory [] []
  | user {rest filled : List Char} (later : FillsIn user directory rest filled) :
      FillsIn user directory (userMark ++ rest) (user ++ filled)
  | directory {rest filled : List Char} (later : FillsIn user directory rest filled) :
      FillsIn user directory (directoryMark ++ rest) (directory ++ filled)
  | other {character : Char} {rest filled : List Char}
      (notUser : ¬ userMark <+: character :: rest)
      (notDirectory : ¬ directoryMark <+: character :: rest)
      (later : FillsIn user directory rest filled) :
      FillsIn user directory (character :: rest) (character :: filled)

/-- A text becomes another one when a replacement takes the place of a mark so many times. -/
inductive Replaces (mark replacement : List Char) : List Char → List Char → Nat → Prop where
  | nothing : Replaces mark replacement [] [] 0
  | kept (character : Char) {text after : List Char} {times : Nat}
      (later : Replaces mark replacement text after times) :
      Replaces mark replacement (character :: text) (character :: after) times
  | replaced {text after : List Char} {times : Nat}
      (later : Replaces mark replacement text after times) :
      Replaces mark replacement (mark ++ text) (replacement ++ after) (times + 1)

section

variable {mark replacement text after rest : List Char} {character : Char} {times : Nat}

theorem Replaces.keep (front : List Char) (later : Replaces mark replacement text after times) :
    Replaces mark replacement (front ++ text) (front ++ after) times := by
  induction front with
  | nil => exact later
  | cons character front ih => exact .kept character ih

theorem Replaces.length (replaces : Replaces mark replacement text after times) :
    text.length + times * replacement.length = after.length + times * mark.length := by
  induction replaces with
  | nothing => simp
  | kept character later ih =>
      rw [List.length_cons, List.length_cons]
      omega
  | replaced later ih =>
      rw [List.length_append, List.length_append, Nat.succ_mul, Nat.succ_mul]
      omega

def differences (first second : List Char) : Nat :=
  (first.zip second).countP fun pair => pair.1 != pair.2

theorem eq_of_no_differences {first second : List Char} (none : differences first second = 0)
    (sameLength : first.length = second.length) : first = second := by
  induction first generalizing second with
  | nil => exact (List.length_eq_zero_iff.mp sameLength.symm).symm
  | cons character first ih =>
      cases second with
      | nil => cases sameLength
      | cons other second =>
          simp only [differences, List.zip_cons_cons, List.countP_cons, Nat.add_eq_zero_iff] at none
          have same : character = other := by simpa using none.2
          rw [same, ih none.1 (Nat.succ.inj sameLength)]

theorem Replaces.differences (replaces : Replaces mark replacement text after times)
    (sameLength : mark.length = replacement.length) :
    differences text after = times * differences mark replacement := by
  induction replaces with
  | nothing => simp [Prompt.differences]
  | kept character later ih => simpa [Prompt.differences] using ih
  | replaced later ih =>
      simp only [Prompt.differences] at ih ⊢
      rw [List.zip_append sameLength, List.countP_append, ih, Nat.succ_mul]
      omega

theorem Replaces.times_unique {other : Nat} (differ : replacement ≠ mark)
    (replaces : Replaces mark replacement text after times)
    (again : Replaces mark replacement text after other) : times = other := by
  by_cases sameLength : mark.length = replacement.length
  · have some : 0 < Prompt.differences mark replacement := by
      apply Nat.pos_of_ne_zero
      intro none
      exact differ (eq_of_no_differences none sameLength).symm
    have count := replaces.differences sameLength
    rw [again.differences sameLength] at count
    exact (Nat.eq_of_mul_eq_mul_right some count).symm
  · have first : (text.length + times * replacement.length : Int) =
        after.length + times * mark.length := mod_cast replaces.length
    have second : (text.length + other * replacement.length : Int) =
        after.length + other * mark.length := mod_cast again.length
    have balanced : ((times : Int) - other) * (replacement.length - mark.length) = 0 := by
      linear_combination first - second
    rcases mul_eq_zero.mp balanced with same | same
    · omega
    · exact absurd (by omega) sameLength

/-- A mark begins with a brace and has no other one like it inside. -/
def IsMark (mark : List Char) : Prop :=
  ∃ inside, mark = '\x7b' :: inside ∧ '\x7b' ∉ inside

theorem user_mark_is_mark : IsMark userMark :=
  ⟨_, rfl, by decide⟩

theorem directory_mark_is_mark : IsMark directoryMark :=
  ⟨_, rfl, by decide⟩

theorem IsMark.not_here (isMark : IsMark mark) (plain : character ≠ '\x7b') :
    ¬ mark <+: character :: rest := by
  obtain ⟨inside, rfl, _⟩ := isMark
  intro here
  exact plain (List.cons_prefix_cons.mp here).1.symm

theorem replace_from_skips (skip : Nat) (text : List Char) :
    replaceFrom mark replacement skip text = replace mark replacement (text.drop skip) := by
  induction text generalizing skip with
  | nil => simp [replace, replaceFrom]
  | cons character rest ih =>
      cases skip with
      | zero => rfl
      | succ skip => exact ih skip

theorem replace_mark (isMark : IsMark mark) (rest : List Char) :
    replace mark replacement (mark ++ rest) = replacement ++ replace mark replacement rest := by
  obtain ⟨inside, rfl, _⟩ := isMark
  have here : ('\x7b' :: inside).isPrefixOf ('\x7b' :: (inside ++ rest)) = true :=
    List.isPrefixOf_iff_prefix.mpr (List.prefix_append _ rest)
  rw [List.cons_append, replace, replaceFrom, if_pos here, replace_from_skips]
  simp

theorem replace_other (other : ¬ mark <+: character :: rest) :
    replace mark replacement (character :: rest) = character :: replace mark replacement rest := by
  have notHere : ¬ mark.isPrefixOf (character :: rest) = true := by
    rwa [List.isPrefixOf_iff_prefix]
  rw [replace, replaceFrom, if_neg notHere, replace]

theorem occurrences_nil (isMark : IsMark mark) : occurrences mark [] = 0 := by
  obtain ⟨inside, rfl, _⟩ := isMark
  rfl

theorem occurrences_here (here : mark <+: character :: rest) :
    occurrences mark (character :: rest) = occurrences mark rest + 1 := by
  simp [occurrences, List.isPrefixOf_iff_prefix, here]

theorem occurrences_other (other : ¬ mark <+: character :: rest) :
    occurrences mark (character :: rest) = occurrences mark rest := by
  simp [occurrences, List.isPrefixOf_iff_prefix, other]

theorem replace_plain {front : List Char} (isMark : IsMark mark) (plain : '\x7b' ∉ front)
    (rest : List Char) :
    replace mark replacement (front ++ rest) = front ++ replace mark replacement rest := by
  induction front with
  | nil => rfl
  | cons character front ih =>
      rw [List.mem_cons, not_or] at plain
      rw [List.cons_append, replace_other (isMark.not_here (Ne.symm plain.1)), ih plain.2,
        List.cons_append]

theorem occurrences_plain {front : List Char} (isMark : IsMark mark) (plain : '\x7b' ∉ front)
    (rest : List Char) : occurrences mark (front ++ rest) = occurrences mark rest := by
  induction front with
  | nil => rfl
  | cons character front ih =>
      rw [List.mem_cons, not_or] at plain
      rw [List.cons_append, occurrences_other (isMark.not_here (Ne.symm plain.1)), ih plain.2]

theorem occurrences_mark (isMark : IsMark mark) (rest : List Char) :
    occurrences mark (mark ++ rest) = occurrences mark rest + 1 := by
  have found := isMark
  obtain ⟨inside, rfl, plain⟩ := found
  rw [List.cons_append, occurrences_here (List.prefix_append _ rest),
    occurrences_plain isMark plain]

theorem replace_other_mark {other : List Char} (isMark : IsMark mark) (isOther : IsMark other)
    (differ : ¬ mark <+: other ++ rest) :
    replace mark replacement (other ++ rest) = other ++ replace mark replacement rest := by
  obtain ⟨inside, rfl, plain⟩ := isOther
  rw [List.cons_append] at differ ⊢
  rw [replace_other differ, replace_plain isMark plain, List.cons_append]

theorem occurrences_other_mark {other : List Char} (isMark : IsMark mark) (isOther : IsMark other)
    (differ : ¬ mark <+: other ++ rest) :
    occurrences mark (other ++ rest) = occurrences mark rest := by
  obtain ⟨inside, rfl, plain⟩ := isOther
  rw [List.cons_append] at differ ⊢
  rw [occurrences_other differ, occurrences_plain isMark plain]

theorem user_is_not_directory (rest : List Char) : ¬ directoryMark <+: userMark ++ rest := by
  simp [userMark, directoryMark]

theorem directory_is_not_user (rest : List Char) : ¬ userMark <+: directoryMark ++ rest := by
  simp [userMark, directoryMark]

theorem replaces_all (isMark : IsMark mark) (replacement text : List Char) :
    Replaces mark replacement text (replace mark replacement text) (occurrences mark text) := by
  induction size : text.length using Nat.strongRecOn generalizing text with
  | ind size ih =>
      subst size
      by_cases here : mark <+: text
      · obtain ⟨rest, rfl⟩ := here
        have shorter : rest.length < (mark ++ rest).length := by
          obtain ⟨inside, rfl, _⟩ := isMark
          rw [List.length_append, List.length_cons]
          omega
        rw [replace_mark isMark, occurrences_mark isMark]
        exact .replaced (ih rest.length shorter rest rfl)
      cases text with
      | nil =>
          rw [occurrences_nil isMark]
          exact .nothing
      | cons character rest =>
          rw [replace_other here, occurrences_other here]
          exact .kept character (ih rest.length (by simp) rest rfl)

theorem Replaces.at_most (isMark : IsMark mark)
    (replaces : Replaces mark replacement text after times) :
    times ≤ occurrences mark text := by
  induction replaces with
  | nothing => exact Nat.zero_le _
  | @kept character text after times later ih =>
      by_cases here : mark <+: character :: text
      · rw [occurrences_here here]
        omega
      · rwa [occurrences_other here]
  | replaced later ih =>
      rw [occurrences_mark isMark]
      omega

theorem Replaces.eq_replace (isMark : IsMark mark)
    (replaces : Replaces mark replacement text after times)
    (all : times = occurrences mark text) : after = replace mark replacement text := by
  induction replaces with
  | nothing => rfl
  | @kept character text after times later ih =>
      by_cases here : mark <+: character :: text
      · have atMost := later.at_most isMark
        rw [occurrences_here here] at all
        omega
      · rw [occurrences_other here] at all
        rw [replace_other here, ih all]
  | replaced later ih =>
      rw [occurrences_mark isMark] at all
      rw [replace_mark isMark, ih (Nat.succ.inj all)]

theorem Replaces.eq_self (replaces : Replaces mark mark text after times) : after = text := by
  induction replaces with
  | nothing => rfl
  | kept character later ih => rw [ih]
  | replaced later ih => rw [ih]

/-- A text in which some marks were replaced is the one in which all were, exactly when all were
or the mark stands for itself. -/
theorem Replaces.eq_replace_iff (isMark : IsMark mark)
    (replaces : Replaces mark replacement text after times) :
    replace mark replacement text = after ↔
      replacement = mark ∨ occurrences mark text = times := by
  have whole := replaces_all isMark replacement text
  constructor
  · intro same
    by_cases itself : replacement = mark
    · exact .inl itself
    · rw [same] at whole
      exact .inr (whole.times_unique itself replaces)
  · rintro (rfl | all)
    · rw [whole.eq_self, replaces.eq_self]
    · exact (replaces.eq_replace isMark all.symm).symm

end

namespace FillsIn

variable {user directory text filled rest : List Char} {character : Char}

theorem of_user_mark (fills : FillsIn user directory text filled)
    (begins : text = userMark ++ rest) :
    ∃ later, filled = user ++ later ∧ FillsIn user directory rest later := by
  cases fills with
  | nothing => cases begins
  | user later =>
      obtain rfl := List.append_cancel_left begins
      exact ⟨_, rfl, later⟩
  | directory later => exact absurd ⟨_, begins.symm⟩ (directory_is_not_user _)
  | other notUser notDirectory later => exact absurd ⟨rest, begins.symm⟩ notUser

theorem of_directory_mark (fills : FillsIn user directory text filled)
    (begins : text = directoryMark ++ rest) :
    ∃ later, filled = directory ++ later ∧ FillsIn user directory rest later := by
  cases fills with
  | nothing => cases begins
  | user later => exact absurd ⟨_, begins.symm⟩ (user_is_not_directory _)
  | directory later =>
      obtain rfl := List.append_cancel_left begins
      exact ⟨_, rfl, later⟩
  | other notUser notDirectory later => exact absurd ⟨rest, begins.symm⟩ notDirectory

theorem of_other (fills : FillsIn user directory text filled) (begins : text = character :: rest)
    (notUser : ¬ userMark <+: text) (notDirectory : ¬ directoryMark <+: text) :
    ∃ later, filled = character :: later ∧ FillsIn user directory rest later := by
  cases fills with
  | nothing => cases begins
  | user later => exact absurd (List.prefix_append _ _) notUser
  | directory later => exact absurd (List.prefix_append _ _) notDirectory
  | other _ _ later =>
      obtain ⟨rfl, rfl⟩ := List.cons.inj begins
      exact ⟨_, rfl, later⟩

theorem unique {other : List Char} (fills : FillsIn user directory text filled)
    (again : FillsIn user directory text other) : other = filled := by
  induction fills generalizing other with
  | nothing =>
      cases again with
      | nothing => rfl
  | user later ih =>
      obtain ⟨_, rfl, againLater⟩ := again.of_user_mark rfl
      rw [ih againLater]
  | directory later ih =>
      obtain ⟨_, rfl, againLater⟩ := again.of_directory_mark rfl
      rw [ih againLater]
  | other notUser notDirectory later ih =>
      obtain ⟨_, rfl, againLater⟩ := again.of_other rfl notUser notDirectory
      rw [ih againLater]

theorem exists_filled (user directory text : List Char) :
    ∃ filled, FillsIn user directory text filled := by
  induction size : text.length using Nat.strongRecOn generalizing text with
  | ind size ih =>
      subst size
      by_cases atUser : userMark <+: text
      · obtain ⟨rest, rfl⟩ := atUser
        obtain ⟨filled, fills⟩ := ih rest.length (by simp [userMark]; omega) rest rfl
        exact ⟨_, .user fills⟩
      by_cases atDirectory : directoryMark <+: text
      · obtain ⟨rest, rfl⟩ := atDirectory
        obtain ⟨filled, fills⟩ := ih rest.length (by simp [directoryMark]; omega) rest rfl
        exact ⟨_, .directory fills⟩
      cases text with
      | nil => exact ⟨[], .nothing⟩
      | cons character rest =>
          obtain ⟨filled, fills⟩ := ih rest.length (by simp) rest rfl
          exact ⟨_, .other atUser atDirectory fills⟩

theorem names_user (fills : FillsIn user directoryMark text filled) :
    filled = replace userMark user text := by
  induction fills with
  | nothing => rfl
  | user later ih => rw [replace_mark user_mark_is_mark, ih]
  | directory later ih =>
      rw [replace_other_mark user_mark_is_mark directory_mark_is_mark (directory_is_not_user _), ih]
  | other notUser notDirectory later ih => rw [replace_other notUser, ih]

theorem replaces (fills : FillsIn user directory text filled) :
    Replaces directoryMark directory (replace userMark user text) filled
      (occurrences directoryMark text) := by
  induction fills with
  | nothing =>
      rw [occurrences_nil directory_mark_is_mark]
      exact .nothing
  | user later ih =>
      rw [replace_mark user_mark_is_mark,
        occurrences_other_mark directory_mark_is_mark user_mark_is_mark (user_is_not_directory _)]
      exact ih.keep user
  | directory later ih =>
      rw [replace_other_mark user_mark_is_mark directory_mark_is_mark (directory_is_not_user _),
        occurrences_mark directory_mark_is_mark]
      exact .replaced ih
  | other notUser notDirectory later ih =>
      rw [replace_other notUser, occurrences_other notDirectory]
      exact .kept _ ih

theorem iff_eq (fills : FillsIn user directory text filled) (other : List Char) :
    FillsIn user directory text other ↔ other = filled := by
  constructor
  · exact fills.unique
  · rintro rfl
    exact fills

end FillsIn

/-- There is one text that shows the user in place of the user's marks and keeps those of the
directory, and one that fills in both. The prompt is the first of them with the directory at
every place where its mark is found. So it is the second one exactly when the directory is
written like its own mark, or showing the user has made no mark that was not in the template. -/
theorem prompt_fills_in_once_iff (template user directory : String) :
    ∃ named filled,
      (∀ text, FillsIn user.toList directoryMark template.toList text ↔ text = named) ∧
      (∀ text, FillsIn user.toList directory.toList template.toList text ↔ text = filled) ∧
      Replaces directoryMark directory.toList named (render template user directory).toList
        (occurrences directoryMark named) ∧
      ((render template user directory).toList = filled ↔
        directory.toList = directoryMark ∨
          occurrences directoryMark named = occurrences directoryMark template.toList) := by
  obtain ⟨named, names⟩ := FillsIn.exists_filled user.toList directoryMark template.toList
  obtain ⟨filled, fills⟩ := FillsIn.exists_filled user.toList directory.toList template.toList
  have shown : (render template user directory).toList =
      replace directoryMark directory.toList named := by
    rw [render, String.toList_ofList, names.names_user]
  refine ⟨named, filled, names.iff_eq, fills.iff_eq, ?_, ?_⟩
  · rw [shown]
    exact replaces_all directory_mark_is_mark directory.toList named
  · have some := fills.replaces
    rw [← names.names_user] at some
    rw [shown]
    exact some.eq_replace_iff directory_mark_is_mark

/-- A user whose name is written like the directory's mark is not shown, and neither is one
whose name makes such a mark with the characters of the template around it. -/
theorem name_like_mark_is_not_shown :
    FillsIn directoryMark ['/'] userMark directoryMark ∧
      (render "\x7buser\x7d" "\x7bcwd\x7d" "/").toList = ['/'] ∧
      FillsIn ['w', 'd'] ['/'] ("\x7bc\x7buser\x7d\x7d").toList directoryMark ∧
      (render "\x7bc\x7buser\x7d\x7d" "wd" "/").toList = ['/'] ∧
      directoryMark ≠ ['/'] := by
  have alone : FillsIn directoryMark ['/'] (userMark ++ []) (directoryMark ++ []) :=
    .user .nothing
  have among : FillsIn ['w', 'd'] ['/'] ("\x7bc\x7buser\x7d\x7d").toList directoryMark :=
    .other (by decide) (by decide) (.other (by decide) (by decide)
      (.user (.other (by decide) (by decide) .nothing)))
  exact ⟨alone, by decide, among, by decide, by decide⟩

end JobShell.Prompt
