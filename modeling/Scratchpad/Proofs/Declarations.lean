/-
Which declarations the scan finds.

The scan for a keyword takes the name of a declaration together with its keyword. So a keyword
that stands where a name is expected is taken for that name, reserved or not, and declares nothing
itself: of several keywords in a row, with blanks between them, every second one declares.

* `IsName`, `IsGap`, `StandsFree`, `EndsName`: the shapes of names and blanks, and of what may
  stand in front of a keyword and behind a name.
* `declarationAt?_append`, `declaredBy_append`: what follows a text that stands free and does not
  end in the keyword and blanks has no influence on the declarations in it.
* `declaredBy_keyword`: a declaration is found at the front of a text.
* `TakenForName`: the keyword behind a text is taken for a name.
* `declared_name_mem_identifiers`: every name that is declared is found, wherever it is, except
  behind a keyword that is taken for a name; `not_forall_declared_name_mem_identifiers` shows one.
-/
import Mathlib
import Scratchpad.Declarations

namespace Scratchpad

/-! ### Characters -/

/-- The code points of blanks. -/
def blankCodes : List ℕ :=
  [0x20, 0x85, 0xA0, 0x1680, 0x2028, 0x2029, 0x202F, 0x205F, 0x3000] ++
    List.range' 0x09 5 ++ List.range' 0x2000 11

lemma toNat_mem_blankCodes {c : Char} (h : isBlank c) : c.toNat ∈ blankCodes := by
  simp only [isBlank, CodeRanges.contains, Bool.or_false] at h
  simp only [blankCodes, List.mem_append, List.mem_cons, List.mem_range'_1, List.not_mem_nil]
  grind

/-- A blank does not join the keyword behind it. -/
lemma joinsKeyword_of_isBlank {c : Char} (h : isBlank c) : joinsKeyword c = false := by
  have hall : ∀ n ∈ blankCodes, (alphabeticRanges.contains n || markRanges.contains n ||
      decimalDigitRanges.contains n || isConnector (Char.ofNat n) ||
      isJoiner (Char.ofNat n)) = false := by
    decide +kernel
  have hc := hall c.toNat (toNat_mem_blankCodes h)
  rwa [Char.ofNat_toNat] at hc

lemma continuesName_of_startsName {c : Char} (h : startsName c) : continuesName c := by
  simp only [startsName, continuesName, Char.isAlphanum, Bool.or_eq_true] at h ⊢
  tauto

lemma toNat_lt_of_continuesName {c : Char} (h : continuesName c) : c.toNat < 128 := by
  simp only [continuesName, Char.isAlphanum, Char.isAlpha, Char.isUpper, Char.isLower,
    Char.isDigit, Bool.or_eq_true, Bool.and_eq_true, decide_eq_true_eq, beq_iff_eq] at h
  rcases h with ((h | h) | h) | rfl
  · exact Nat.lt_of_le_of_lt h.2 (by decide)
  · exact Nat.lt_of_le_of_lt h.2 (by decide)
  · exact Nat.lt_of_le_of_lt h.2 (by decide)
  · decide

/-- A character of a name joins the keyword behind it. -/
lemma joinsKeyword_of_continuesName {c : Char} (h : continuesName c) : joinsKeyword c := by
  have hall : ∀ n < 128, continuesName (Char.ofNat n) → joinsKeyword (Char.ofNat n) := by
    decide +kernel
  have hc := hall c.toNat (toNat_lt_of_continuesName h)
  rw [Char.ofNat_toNat] at hc
  exact hc h

lemma isBlank_of_continuesName {c : Char} (h : continuesName c) : isBlank c = false := by
  by_contra hblank
  have hjoins := joinsKeyword_of_isBlank (Bool.eq_true_of_not_eq_false hblank)
  rw [joinsKeyword_of_continuesName h] at hjoins
  cases hjoins

/-! ### Shapes -/

/-- A letter or an underscore, and then letters, digits and underscores, all of them ASCII. -/
def IsName (n : Text) : Prop :=
  ∃ c rest, n = c :: rest ∧ startsName c ∧ ∀ d ∈ rest, continuesName d

/-- Blanks, at least one. -/
def IsGap (w : Text) : Prop := w ≠ [] ∧ ∀ c ∈ w, isBlank c

/-- A keyword behind this text is no part of a longer word. -/
def StandsFree (p : Text) : Prop := ∀ h : p ≠ [], ¬ joinsKeyword (p.getLast h)

/-- A name in front of this text ends there. -/
def EndsName (q : Text) : Prop := ∀ c rest, q = c :: rest → continuesName c = false

variable {kw n p q r s w : Text}

lemma isName_iff : IsName n ↔ n.head?.any startsName ∧ n.tail.all continuesName := by
  cases n <;> simp [IsName]

lemma isGap_iff : IsGap w ↔ w ≠ [] ∧ w.all isBlank := by
  simp [IsGap]

instance : Decidable (IsName n) := decidable_of_iff' _ isName_iff

instance : Decidable (IsGap w) := decidable_of_iff' _ isGap_iff

lemma IsName.continuesName (h : IsName n) : ∀ c ∈ n, continuesName c := by
  obtain ⟨c, rest, rfl, hc, hrest⟩ := h
  exact List.forall_mem_cons.mpr ⟨continuesName_of_startsName hc, hrest⟩

lemma IsName.ne_nil (h : IsName n) : n ≠ [] := by
  obtain ⟨c, rest, rfl, -, -⟩ := h
  exact List.cons_ne_nil c rest

/-- Behind a character of a name no keyword stands free. -/
lemma not_standsFree (hr : r ≠ []) (h : ∀ c ∈ r, continuesName c) (p : Text) :
    ¬ StandsFree (p ++ r) := by
  intro hfree
  have hne : p ++ r ≠ [] := List.append_ne_nil_of_right_ne_nil p hr
  refine hfree hne ?_
  rw [List.getLast_append_of_ne_nil hne hr]
  exact joinsKeyword_of_continuesName (h _ (List.getLast_mem _))

lemma IsName.not_standsFree (h : IsName n) (p : Text) : ¬ StandsFree (p ++ n) :=
  Scratchpad.not_standsFree h.ne_nil h.continuesName p

/-- Only the end of a text matters to the keyword behind it. -/
lemma StandsFree.of_append (h : StandsFree (p ++ r)) (hr : r ≠ []) : StandsFree r := by
  intro hne
  have hlast := h (List.append_ne_nil_of_right_ne_nil p hr)
  rwa [List.getLast_append_of_ne_nil _ hr] at hlast

lemma IsGap.endsName (h : IsGap w) (rest : Text) : EndsName (w ++ rest) := by
  obtain ⟨hne, hblank⟩ := h
  obtain ⟨b, w, rfl⟩ := List.exists_cons_of_ne_nil hne
  intro c rest' heq
  cases heq
  by_contra hc
  have hb := isBlank_of_continuesName (Bool.eq_true_of_not_eq_false hc)
  rw [hblank _ List.mem_cons_self] at hb
  cases hb

/-! ### The declaration at the front of a text -/

lemma takeWhile_append_eq {f : Char → Bool} {a b : Text} (ha : ∀ c ∈ a, f c)
    (hb : ∀ c rest, b = c :: rest → f c = false) : (a ++ b).takeWhile f = a := by
  rw [List.takeWhile_append_of_pos ha]
  cases b with
  | nil => simp
  | cons c rest => simp [hb c rest rfl]

lemma dropWhile_append_eq {f : Char → Bool} {a b : Text} (ha : ∀ c ∈ a, f c)
    (hb : ∀ c rest, b = c :: rest → f c = false) : (a ++ b).dropWhile f = b := by
  rw [List.dropWhile_append_of_pos ha]
  cases b with
  | nil => rfl
  | cons c rest => simp [hb c rest rfl]

/-- A declaration is a keyword, blanks and a name that is taken as long as it goes. -/
theorem declarationAt?_eq_some_iff {length : ℕ} :
    declarationAt? kw s = some (n, length) ↔
      ∃ w q, IsGap w ∧ IsName n ∧ EndsName q ∧ s = kw ++ (w ++ (n ++ q)) ∧
        length = kw.length + w.length + n.length := by
  constructor
  · intro h
    rw [declarationAt?] at h
    split at h
    · next hpre =>
        obtain ⟨behind, rfl⟩ := List.isPrefixOf_iff_prefix.mp hpre
        rw [List.drop_left] at h
        dsimp only at h
        split at h
        · next b w c rest hblanks hbehind =>
            split at h
            · next hc =>
                cases h
                refine ⟨b :: w, rest.dropWhile continuesName, ⟨List.cons_ne_nil b w, ?_⟩,
                  ⟨c, _, rfl, hc, fun d => List.mem_takeWhile_imp⟩, ?_, ?_, by rw [hblanks]⟩
                · rw [← hblanks]
                  exact fun d => List.mem_takeWhile_imp
                · intro d t heq
                  have hhead := List.head?_dropWhile_not continuesName rest
                  rw [heq] at hhead
                  simpa using hhead
                · rw [List.cons_append (a := c), List.takeWhile_append_dropWhile, ← hblanks,
                    ← hbehind, List.takeWhile_append_dropWhile]
            · cases h
        · cases h
    · cases h
  · rintro ⟨w, q, hw, ⟨c, rest, rfl, hc, hrest⟩, hq, rfl, rfl⟩
    have hblank : ∀ d t, c :: rest ++ q = d :: t → isBlank d = false := by
      intro d t heq
      cases heq
      exact isBlank_of_continuesName (continuesName_of_startsName hc)
    obtain ⟨b, w', rfl⟩ := List.exists_cons_of_ne_nil hw.1
    have htake := takeWhile_append_eq hw.2 hblank
    have hdrop := dropWhile_append_eq hw.2 hblank
    rw [declarationAt?, if_pos (by simp), List.drop_left]
    dsimp only
    rw [htake, hdrop]
    simp only [List.cons_append, hc, if_true, takeWhile_append_eq hrest hq]

/-- A declaration lies in the text it is found in. -/
lemma length_le_of_declarationAt? {length : ℕ} (h : declarationAt? kw s = some (n, length)) :
    length ≤ s.length := by
  obtain ⟨w, q, -, -, -, rfl, rfl⟩ := declarationAt?_eq_some_iff.mp h
  simp only [List.length_append]
  omega

/-- What stands free and is not the keyword with blanks has no declaration at its front that goes
on behind it. -/
lemma exists_of_declaration_append (hkw : IsName kw) (hr : r ≠ []) (hfree : StandsFree r)
    (hgap : ∀ w', IsGap w' → r ≠ kw ++ w') (hw : IsGap w) (hn : IsName n)
    (h : r ++ s = kw ++ (w ++ (n ++ q))) : ∃ q', r = kw ++ (w ++ (n ++ q')) ∧ q = q' ++ s := by
  -- `r` may end inside the keyword, inside the blanks, inside the name or behind it
  obtain ⟨v, hkeyword, -⟩ | ⟨v, rfl, hv⟩ := List.append_eq_append_iff.mp h
  · have hall : ∀ c ∈ r, continuesName c := fun c hc =>
      hkw.continuesName c (hkeyword ▸ List.mem_append_left v hc)
    exact absurd hfree (not_standsFree hr hall [])
  obtain ⟨u, rfl, hu⟩ | ⟨u, rfl, -⟩ := List.append_eq_append_iff.mp hv
  · obtain ⟨x, rfl, hx⟩ | ⟨x, rfl, -⟩ := List.append_eq_append_iff.mp hu
    · exact ⟨x, rfl, hx⟩
    · rcases eq_or_ne u [] with rfl | hne
      · exact absurd (by simp) (hgap w hw)
      · have hall : ∀ c ∈ u, continuesName c := fun c hc =>
          hn.continuesName c (List.mem_append_left x hc)
        rw [← List.append_assoc] at hfree
        exact absurd hfree (not_standsFree hne hall _)
  · rcases eq_or_ne v [] with rfl | hne
    · rw [List.append_nil] at hfree
      exact absurd hfree (hkw.not_standsFree [])
    · exact absurd rfl (hgap v ⟨hne, fun c hc => hw.2 c (List.mem_append_left u hc)⟩)

/-- What follows a text that stands free and is not the keyword with blanks has no influence on
the declaration at its front. -/
lemma declarationAt?_append (hkw : IsName kw) (hr : r ≠ []) (hfree : StandsFree r)
    (hgap : ∀ w', IsGap w' → r ≠ kw ++ w') (s : Text) :
    declarationAt? kw (r ++ s) = declarationAt? kw r := by
  refine Option.ext fun ⟨n, length⟩ => ?_
  rw [declarationAt?_eq_some_iff, declarationAt?_eq_some_iff]
  constructor
  · rintro ⟨w, q, hw, hn, hq, h, hlength⟩
    obtain ⟨q', hr', rfl⟩ := exists_of_declaration_append hkw hr hfree hgap hw hn h
    refine ⟨w, q', hw, hn, ?_, hr', hlength⟩
    rintro c rest rfl
    exact hq c (rest ++ s) rfl
  · rintro ⟨w, q, hw, hn, hq, rfl, hlength⟩
    refine ⟨w, q ++ s, hw, hn, ?_, by simp, hlength⟩
    -- behind the name there is still something of `r`, since `r` stands free
    rcases eq_or_ne q [] with rfl | hne
    · rw [List.append_nil, ← List.append_assoc] at hfree
      exact absurd hfree (hn.not_standsFree _)
    · obtain ⟨d, rest, rfl⟩ := List.exists_cons_of_ne_nil hne
      intro c t heq
      cases heq
      exact hq d rest rfl

/-! ### Scanning a text in two parts -/

/-- Whether a keyword behind `p` is part of a longer word; `joined` says so of one in front of
`p`. -/
def joinedAfter (joined : Bool) (p : Text) : Bool := p.foldl (fun _ c => joinsKeyword c) joined

lemma joinedAfter_append_singleton (joined : Bool) (p : Text) (c : Char) :
    joinedAfter joined (p ++ [c]) = joinsKeyword c := by
  simp [joinedAfter]

lemma joinedAfter_eq_false_iff : joinedAfter false p = false ↔ StandsFree p := by
  induction p using List.reverseRecOn with
  | nil => simp [joinedAfter, StandsFree]
  | append_singleton p c _ => simp [joinedAfter_append_singleton, StandsFree]

/-- The text ends in the keyword and blanks, and the keyword is no part of a longer word. -/
def EndsInKeyword (kw p : Text) : Prop := ∃ p₀ w, p = p₀ ++ kw ++ w ∧ StandsFree p₀ ∧ IsGap w

/-- What is behind a text that stands free and does not end in the keyword is scanned on its
own. -/
lemma scan_append (hkw : IsName kw) (hfree : StandsFree (p ++ r))
    (hends : ¬ EndsInKeyword kw (p ++ r)) (s : Text) {taken : ℕ} (htaken : taken ≤ r.length) :
    scan kw taken (joinedAfter false p) (r ++ s) =
      scan kw taken (joinedAfter false p) r ++ scan kw 0 false s := by
  induction r generalizing p taken with
  | nil =>
      rw [List.append_nil] at hfree
      rw [Nat.le_zero.mp htaken, joinedAfter_eq_false_iff.mpr hfree]
      cases s <;> rfl
  | cons c r ih =>
      have hsplit : p ++ c :: r = (p ++ [c]) ++ r := by simp
      have hnext : ∀ taken ≤ r.length, scan kw taken (joinsKeyword c) (r ++ s) =
          scan kw taken (joinsKeyword c) r ++ scan kw 0 false s := by
        intro taken htaken
        rw [hsplit] at hfree hends
        have hscan := ih hfree hends htaken
        rwa [joinedAfter_append_singleton] at hscan
      cases taken with
      | succ taken => exact hnext taken (Nat.le_of_succ_le_succ htaken)
      | zero =>
          cases hjoined : joinedAfter false p with
          | true => exact hnext 0 (Nat.zero_le _)
          | false =>
              have hgap : ∀ w, IsGap w → c :: r ≠ kw ++ w := by
                intro w hw heq
                refine hends ⟨p, w, ?_, joinedAfter_eq_false_iff.mp hjoined, hw⟩
                rw [heq, List.append_assoc]
              have hlocal := declarationAt?_append hkw (List.cons_ne_nil c r)
                (hfree.of_append (List.cons_ne_nil c r)) hgap s
              rw [List.cons_append] at hlocal
              rw [List.cons_append, scan, scan, hlocal]
              cases hfound : declarationAt? kw (c :: r) with
              | none => exact hnext 0 (Nat.zero_le _)
              | some found =>
                  obtain ⟨n, length⟩ := found
                  have hlength := length_le_of_declarationAt? hfound
                  rw [List.length_cons] at hlength
                  dsimp only
                  rw [hnext (length - 1) (by omega), List.cons_append]

/-- What is behind a text that stands free and does not end in the keyword is scanned on its
own. -/
theorem declaredBy_append (hkw : IsName kw) (hfree : StandsFree p)
    (hends : ¬ EndsInKeyword kw p) (s : Text) :
    declaredBy kw (p ++ s) = declaredBy kw p ++ declaredBy kw s :=
  scan_append (p := []) hkw hfree hends s (Nat.zero_le _)

/-! ### The keyword at the front of a text -/

/-- Characters that belong to a declaration are passed over. -/
lemma scan_taken (taken : ℕ) (joined : Bool) (r s : Text) :
    scan kw (r.length + taken) joined (r ++ s) = scan kw taken (joinedAfter joined r) s := by
  induction r generalizing joined with
  | nil => rw [List.length_nil, Nat.zero_add, List.nil_append]; rfl
  | cons c r ih =>
      rw [List.length_cons, Nat.add_right_comm, List.cons_append, scan]
      exact ih (joinsKeyword c)

/-- Blanks declare nothing, and what is behind them is scanned on its own. -/
lemma scan_gap (hkw : IsName kw) (hw : IsGap w) (joined : Bool) (s : Text) :
    scan kw 0 joined (w ++ s) = declaredBy kw s := by
  obtain ⟨hne, hblank⟩ := hw
  induction w generalizing joined with
  | nil => exact absurd rfl hne
  | cons b w ih =>
      rw [List.forall_mem_cons] at hblank
      have hnone : declarationAt? kw (b :: (w ++ s)) = none := by
        obtain ⟨c, rest, rfl, hc, -⟩ := hkw
        have hb := isBlank_of_continuesName (continuesName_of_startsName hc)
        rw [declarationAt?, if_neg]
        intro hpre
        rw [List.isPrefixOf_iff_prefix, List.cons_prefix_cons] at hpre
        rw [hpre.1, hblank.1] at hb
        cases hb
      have hnext : scan kw 0 (joinsKeyword b) (w ++ s) = declaredBy kw s := by
        rw [joinsKeyword_of_isBlank hblank.1]
        rcases eq_or_ne w [] with rfl | hw
        · rfl
        · exact ih false hw hblank.2
      cases joined with
      | true => exact hnext
      | false =>
          rw [List.cons_append, scan, hnone]
          exact hnext

/-- A declaration at the front of a text is found, and its characters are passed over. -/
lemma declaredBy_of_declarationAt? {v : Text} (hv : v ≠ [])
    (h : declarationAt? kw (v ++ q) = some (n, v.length)) :
    declaredBy kw (v ++ q) = n :: scan kw 0 (joinedAfter false v) q := by
  obtain ⟨c, v, rfl⟩ := List.exists_cons_of_ne_nil hv
  rw [List.cons_append] at h ⊢
  rw [declaredBy, scan, h]
  exact congrArg (n :: ·) (scan_taken 0 (joinsKeyword c) v q)

/-- A declaration is found at the front of a text. -/
lemma declaredBy_keyword (kw : Text) (hw : IsGap w) (hn : IsName n) (hq : EndsName q) :
    declaredBy kw (kw ++ w ++ n ++ q) = n :: scan kw 0 true q := by
  have hfound : declarationAt? kw (kw ++ w ++ n ++ q) = some (n, (kw ++ w ++ n).length) :=
    declarationAt?_eq_some_iff.mpr ⟨w, q, hw, hn, hq, by simp, by simp [Nat.add_assoc]⟩
  have hne : kw ++ w ++ n ≠ [] := List.append_ne_nil_of_right_ne_nil _ hn.ne_nil
  have hjoined : joinedAfter false (kw ++ w ++ n) = true := by
    rw [← Bool.not_eq_false, joinedAfter_eq_false_iff]
    exact hn.not_standsFree _
  rw [declaredBy_of_declarationAt? hne hfound, hjoined]

/-! ### Keywords in a row -/

/-- Copies of the keyword, each with the given blanks behind it. -/
def keywordRow (kw : Text) (gaps : List Text) : Text := gaps.flatMap (kw ++ ·)

@[simp] lemma keywordRow_nil (kw : Text) : keywordRow kw [] = [] := rfl

@[simp] lemma keywordRow_cons (kw w : Text) (gaps : List Text) :
    keywordRow kw (w :: gaps) = kw ++ w ++ keywordRow kw gaps := rfl

/-- Of two keywords in a row the first declares the second, and what is behind them is scanned on
its own. -/
lemma declaredBy_two_keywords (hkw : IsName kw) {w₁ w₂ : Text} (hw₁ : IsGap w₁) (hw₂ : IsGap w₂)
    (s : Text) : declaredBy kw (kw ++ w₁ ++ (kw ++ w₂ ++ s)) = kw :: declaredBy kw s := by
  have hfirst := declaredBy_keyword kw hw₁ hkw (hw₂.endsName s)
  rw [scan_gap hkw hw₂] at hfirst
  rw [← hfirst]
  simp

lemma keywordRow_append (kw : Text) (gaps gaps' : List Text) :
    keywordRow kw (gaps ++ gaps') = keywordRow kw gaps ++ keywordRow kw gaps' :=
  List.flatMap_append

/-- In an even number of keywords every second one is declared, and what is behind them is scanned
on its own. -/
lemma declaredBy_keywordRow (hkw : IsName kw) {gaps : List Text} (hgaps : ∀ w ∈ gaps, IsGap w)
    (heven : Even gaps.length) (s : Text) :
    declaredBy kw (keywordRow kw gaps ++ s) =
      List.replicate (gaps.length / 2) kw ++ declaredBy kw s := by
  induction gaps using List.twoStepInduction with
  | nil => rfl
  | singleton w => exact absurd heven (by simp)
  | cons_cons w₁ w₂ gaps ih _ =>
      rw [List.forall_mem_cons, List.forall_mem_cons] at hgaps
      have hrest : Even gaps.length := by simpa [Nat.even_add_one] using heven
      have hrow : keywordRow kw (w₁ :: w₂ :: gaps) ++ s =
          kw ++ w₁ ++ (kw ++ w₂ ++ (keywordRow kw gaps ++ s)) := by
        simp
      have hhalf : (w₁ :: w₂ :: gaps).length / 2 = gaps.length / 2 + 1 := by
        simp only [List.length_cons]
        omega
      rw [hrow, declaredBy_two_keywords hkw hgaps.1 hgaps.2.1, ih hgaps.2.2 hrest, hhalf,
        List.replicate_succ, List.cons_append]

/-- The text ends in a row of keywords, one for each of the given gaps, and there is no further
keyword in front of them. -/
def EndsInRow (kw p : Text) (gaps : List Text) : Prop :=
  ∃ p₀, p = p₀ ++ keywordRow kw gaps ∧ StandsFree p₀ ∧ ¬ EndsInKeyword kw p₀ ∧
    ∀ w ∈ gaps, IsGap w

/-- A keyword behind the text is taken for a name: the text ends in an odd number of keywords of
its kind, the last of which expects a name. -/
def TakenForName (kw p : Text) : Prop := ∃ gaps, EndsInRow kw p gaps ∧ Odd gaps.length

/-- Every text that stands free ends in a row of keywords, possibly in none. -/
lemma exists_endsInRow (kw p : Text) (hp : StandsFree p) : ∃ gaps, EndsInRow kw p gaps := by
  induction h : p.length using Nat.strong_induction_on generalizing p with
  | _ m ih =>
      by_cases hends : EndsInKeyword kw p
      · obtain ⟨p₁, w, rfl, hp₁, hw⟩ := hends
        have hshorter : p₁.length < m := by
          have hpos := List.length_pos_iff.mpr hw.1
          rw [← h, List.length_append, List.length_append]
          omega
        obtain ⟨gaps, p₀, rfl, hp₀, hno, hgaps⟩ := ih p₁.length hshorter p₁ hp₁ rfl
        refine ⟨gaps ++ [w], p₀, by simp [keywordRow_append], hp₀, hno, ?_⟩
        rw [List.forall_mem_append, List.forall_mem_singleton]
        exact ⟨hgaps, hw⟩
      · exact ⟨[], p, by simp, hp, hends, by simp⟩

/-- A keyword that is not taken for a name is scanned on its own. -/
lemma exists_declaredBy_append (hkw : IsName kw) (hp : StandsFree p)
    (htaken : ¬ TakenForName kw p) :
    ∃ names, ∀ s, declaredBy kw (p ++ s) = names ++ declaredBy kw s := by
  obtain ⟨gaps, hrow⟩ := exists_endsInRow kw p hp
  have heven : Even gaps.length := Nat.not_odd_iff_even.mp fun hodd => htaken ⟨gaps, hrow, hodd⟩
  obtain ⟨p₀, rfl, hp₀, hends, hgaps⟩ := hrow
  refine ⟨declaredBy kw p₀ ++ List.replicate (gaps.length / 2) kw, fun s => ?_⟩
  rw [List.append_assoc, declaredBy_append hkw hp₀ hends, declaredBy_keywordRow hkw hgaps heven,
    List.append_assoc]

/-- A keyword that is taken for a name declares nothing: what is behind it is scanned as if the
keyword were not there. -/
lemma declaredBy_of_takenForName (hkw : IsName kw) (htaken : TakenForName kw p) (hw : IsGap w)
    (s : Text) :
    declaredBy kw (p ++ kw ++ w ++ s) = declaredBy kw (p ++ kw) ++ declaredBy kw s := by
  obtain ⟨gaps, ⟨p₀, rfl, hp₀, hends, hgaps⟩, hodd⟩ := htaken
  obtain rfl | ⟨gaps, w₁, rfl⟩ := List.eq_nil_or_concat gaps
  · exact absurd hodd (by simp)
  rw [List.concat_eq_append, List.forall_mem_append, List.forall_mem_singleton] at hgaps
  have heven : Even gaps.length := by simpa [Nat.odd_add_one] using hodd
  have hfront : ∀ s', declaredBy kw (p₀ ++ keywordRow kw (gaps ++ [w₁]) ++ s') =
      declaredBy kw p₀ ++ (List.replicate (gaps.length / 2) kw ++
        declaredBy kw (kw ++ w₁ ++ s')) := by
    intro s'
    rw [← declaredBy_keywordRow hkw hgaps.1 heven, ← declaredBy_append hkw hp₀ hends]
    simp [keywordRow_append]
  have hlast : declaredBy kw (kw ++ w₁ ++ kw) = [kw] := by
    have hname := declaredBy_keyword kw hgaps.2 hkw (q := []) (by simp [EndsName])
    rwa [List.append_nil] at hname
  have hkeywords := declaredBy_two_keywords hkw hgaps.2 hw s
  simp only [List.concat_eq_append, List.append_assoc] at hfront hlast hkeywords ⊢
  rw [hfront, hfront, hkeywords, hlast]
  simp

/-! ### Declared names are found -/

lemma isName_of_keyword (h : kw = localKeyword ∨ kw = functionKeyword) : IsName kw := by
  obtain rfl | rfl := h <;> decide +kernel

lemma mem_identifiers_of_mem_declaredBy (hkw : kw = localKeyword ∨ kw = functionKeyword)
    (hmem : n ∈ declaredBy kw s) (hreserved : isReserved n = false) : n ∈ identifiers s := by
  obtain rfl | rfl := hkw
  · exact mem_identifiers.mpr ⟨Or.inl hmem, hreserved⟩
  · exact mem_identifiers.mpr ⟨Or.inr hmem, hreserved⟩

/-- **Declared names**: a keyword that is no part of a longer word, blanks, and a name that is not
reserved: whatever stands in front of them and behind, the name is found, unless the keyword is
itself taken for the name of a declaration. In that case the keyword is what the document declares
there, and the name is looked at as if nothing declared it. -/
theorem declared_name_mem_identifiers (hkw : kw = localKeyword ∨ kw = functionKeyword)
    (hp : StandsFree p) (hw : IsGap w) (hn : IsName n) (hreserved : isReserved n = false)
    (hq : EndsName q) :
    (¬ TakenForName kw p → n ∈ identifiers (p ++ kw ++ w ++ n ++ q)) ∧
    (TakenForName kw p → declaredBy kw (p ++ kw ++ w ++ n ++ q) =
      declaredBy kw (p ++ kw) ++ declaredBy kw (n ++ q)) := by
  have hname := isName_of_keyword hkw
  constructor
  · intro htaken
    refine mem_identifiers_of_mem_declaredBy hkw ?_ hreserved
    obtain ⟨names, happend⟩ := exists_declaredBy_append hname hp htaken
    have hfound := declaredBy_keyword kw hw hn hq
    have hsplit : p ++ kw ++ w ++ n ++ q = p ++ (kw ++ w ++ n ++ q) := by simp
    rw [hsplit, happend, hfound]
    exact List.mem_append_right _ List.mem_cons_self
  · intro htaken
    rw [← declaredBy_of_takenForName hname htaken hw (n ++ q), List.append_assoc _ n]

/-- The third of three keywords, behind an ideographic space and in front of an umlaut, declares. -/
theorem declared_name_mem_identifiers_behind_two_keywords :
    let p := "-- é\nlocal local\u3000".toList
    (StandsFree p ∧ ¬ TakenForName localKeyword p ∧ IsGap "\t".toList ∧ IsName "x1".toList ∧
      isReserved "x1".toList = false ∧ EndsName "ü = 2".toList) ∧
    "x1".toList ∈
      identifiers (p ++ localKeyword ++ "\t".toList ++ "x1".toList ++ "ü = 2".toList) := by
  intro p
  have hp : StandsFree p := joinedAfter_eq_false_iff.mp (by decide +kernel)
  have hw : IsGap "\t".toList := by decide +kernel
  have hn : IsName "x1".toList := by decide +kernel
  have hreserved : isReserved "x1".toList = false := by decide +kernel
  have hq : EndsName "ü = 2".toList := by
    rintro c rest ⟨⟩
    decide +kernel
  have htaken : ¬ TakenForName localKeyword p := by
    intro htaken
    have hscan := declaredBy_of_takenForName (isName_of_keyword (Or.inl rfl)) htaken hw "x1".toList
    revert hscan
    decide +kernel
  exact ⟨⟨hp, htaken, hw, hn, hreserved, hq⟩,
    (declared_name_mem_identifiers (Or.inl rfl) hp hw hn hreserved hq).1 htaken⟩

/-- Of two keywords in a row the second is taken for a name, and what it declares is not found. -/
theorem not_forall_declared_name_mem_identifiers :
    ¬ ∀ kw p w n q : Text, (kw = localKeyword ∨ kw = functionKeyword) → StandsFree p → IsGap w →
      IsName n → isReserved n = false → EndsName q → n ∈ identifiers (p ++ kw ++ w ++ n ++ q) := by
  intro hall
  have hp : StandsFree "local ".toList := joinedAfter_eq_false_iff.mp (by decide +kernel)
  have hn : IsName "x".toList := by decide +kernel
  have hmem := hall localKeyword "local ".toList " ".toList "x".toList [] (Or.inl rfl) hp
    (by decide +kernel) hn (by decide +kernel) (by simp [EndsName])
  revert hmem
  decide +kernel

end Scratchpad
