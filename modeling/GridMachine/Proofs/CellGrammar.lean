import GridMachine.Grid.Cell
import GridMachine.Proofs.Text

/-!
The language of cells. A cell is blank, or it is one group of one to three tokens between slashes,
or it is groups of two or three tokens in brackets that stand side by side. Blanks may stand around
each token and around each pair of brackets. A cell is read exactly if it belongs to this language,
and what is read are the groups that it is written for.
-/

namespace GridMachine.Cell

open Text

/-- Whether a text can be a token: there is something to it, no character that has a meaning in
cells, and no blank at either end. -/
structure IsToken (token : List Char) : Prop where
  nonempty : token ≠ []
  unmarked : ∀ c ∈ token, c ≠ '/' ∧ c ≠ '[' ∧ c ≠ ']'
  trimmed : IsTrimmed token

/-- Texts made of tokens between slashes, with blanks around each token. -/
inductive Spells : List (List Char) → List Char → Prop where
  | last {token piece : List Char} (isToken : IsToken token) (pads : Pads token piece) :
      Spells [token] piece
  | next {token piece rest : List Char} {tokens : List (List Char)} (isToken : IsToken token)
      (pads : Pads token piece) (spells : Spells tokens rest) :
      Spells (token :: tokens) (piece ++ '/' :: rest)

/-- Texts made of groups of two or three tokens in brackets, with blanks around the brackets. -/
inductive Brackets : List (List (List Char)) → List Char → Prop where
  | done {cs : List Char} (isBlanks : IsBlanks cs) : Brackets [] cs
  | group {left content rest : List Char} {tokens : List (List Char)}
      {groups : List (List (List Char))} (isBlanks : IsBlanks left)
      (spells : Spells tokens content) (two_le : 2 ≤ tokens.length) (le_three : tokens.length ≤ 3)
      (brackets : Brackets groups rest) :
      Brackets (tokens :: groups) (left ++ '[' :: (content ++ ']' :: rest))

/-- The groups of tokens that a cell is written for. -/
inductive Writes : List (List (List Char)) → List Char → Prop where
  | blank {cs : List Char} (isBlanks : IsBlanks cs) : Writes [] cs
  | bare {cs : List Char} {tokens : List (List Char)} (spells : Spells tokens cs)
      (le_three : tokens.length ≤ 3) : Writes [tokens] cs
  | bracketed {cs : List Char} {groups : List (List (List Char))} (nonempty : groups ≠ [])
      (brackets : Brackets groups cs) : Writes groups cs

variable {cs left right content : List Char} {tokens : List (List Char)}
  {found : List (List (List Char))}

/-! ### Tokens between slashes -/

theorem ne_of_isBlank {c mark : Char} (hc : isBlank c = true) (hmark : isBlank mark = false) :
    c ≠ mark := by
  rintro rfl
  rw [hc] at hmark
  contradiction

theorem not_mem_of_isBlanks {mark : Char} (hcs : IsBlanks cs) (hmark : isBlank mark = false) :
    mark ∉ cs :=
  fun hmem => ne_of_isBlank (hcs mark hmem) hmark rfl

theorem not_mem_of_pads {token piece : List Char} {mark : Char} (hpads : Pads token piece)
    (hmark : isBlank mark = false) (htoken : mark ∉ token) : mark ∉ piece := by
  obtain ⟨left, right, hleft, hright, rfl⟩ := hpads
  simp only [List.mem_append, not_or]
  exact ⟨not_mem_of_isBlanks hleft hmark, htoken, not_mem_of_isBlanks hright hmark⟩

theorem Spells.ne_nil (h : Spells tokens cs) : tokens ≠ [] := by
  cases h <;> simp

theorem Spells.isToken (h : Spells tokens cs) : ∀ token ∈ tokens, IsToken token := by
  induction h with
  | last isToken _ => simpa using isToken
  | next isToken _ _ ih => exact List.forall_mem_cons.2 ⟨isToken, ih⟩

/-- No bracket stands among tokens between slashes. -/
theorem Spells.unbracketed (h : Spells tokens cs) : '[' ∉ cs ∧ ']' ∉ cs := by
  have hpiece : ∀ {token piece : List Char}, IsToken token → Pads token piece →
      '[' ∉ piece ∧ ']' ∉ piece := by
    intro token piece htoken hpads
    exact ⟨not_mem_of_pads hpads rfl fun hmem => (htoken.unmarked _ hmem).2.1 rfl,
      not_mem_of_pads hpads rfl fun hmem => (htoken.unmarked _ hmem).2.2 rfl⟩
  induction h with
  | last isToken pads => exact hpiece isToken pads
  | next isToken pads _ ih =>
      obtain ⟨hopening, hclosing⟩ := hpiece isToken pads
      simp [hopening, hclosing, ih]

theorem Spells.map_trim_splitOn (h : Spells tokens cs) : (splitOn '/' cs).map trim = tokens := by
  have hpiece : ∀ {token piece : List Char}, IsToken token → Pads token piece →
      '/' ∉ piece ∧ trim piece = token := by
    intro token piece htoken hpads
    exact ⟨not_mem_of_pads hpads rfl fun hmem => (htoken.unmarked _ hmem).1 rfl,
      trim_eq_iff.2 ⟨htoken.trimmed, hpads⟩⟩
  induction h with
  | last isToken pads =>
      obtain ⟨hslash, htrim⟩ := hpiece isToken pads
      rw [splitOn_eq_singleton hslash, List.map_singleton, htrim]
  | next isToken pads _ ih =>
      obtain ⟨hslash, htrim⟩ := hpiece isToken pads
      rw [splitOn_append_cons hslash, List.map_cons, htrim, ih]

theorem spells_intercalate {pieces : List (List Char)} (hne : pieces ≠ [])
    (hpieces : ∀ piece ∈ pieces, IsToken (trim piece)) :
    Spells (pieces.map trim) (['/'].intercalate pieces) := by
  induction pieces with
  | nil => contradiction
  | cons piece pieces ih =>
      obtain ⟨hpiece, hrest⟩ := List.forall_mem_cons.1 hpieces
      have hpads : Pads (trim piece) piece := pads_trim piece
      cases pieces with
      | nil => simpa [List.intercalate] using Spells.last hpiece hpads
      | cons next pieces =>
          have hspells := Spells.next hpiece hpads (ih (by simp) hrest)
          simpa [List.intercalate] using hspells

theorem isToken_trim {piece : List Char} (hpiece : ∀ c ∈ piece, c ≠ '/' ∧ c ≠ '[' ∧ c ≠ ']')
    (hne : trim piece ≠ []) : IsToken (trim piece) where
  nonempty := hne
  unmarked c hc := by
    obtain ⟨left, right, -, -, heq⟩ := pads_trim piece
    apply hpiece c
    rw [heq]
    simp [hc]
  trimmed := isTrimmed_trim piece

/-- Cutting at slashes and trimming reads tokens between slashes, and nothing else. -/
theorem spells_iff (hopening : '[' ∉ cs) (hclosing : ']' ∉ cs) :
    Spells tokens cs ↔ (splitOn '/' cs).map trim = tokens ∧ [] ∉ tokens := by
  constructor
  · intro h
    exact ⟨h.map_trim_splitOn, fun hmem => (h.isToken [] hmem).nonempty rfl⟩
  · rintro ⟨rfl, hne⟩
    have hspells : Spells ((splitOn '/' cs).map trim) (['/'].intercalate (splitOn '/' cs)) := by
      refine spells_intercalate (splitOn_ne_nil '/' cs) fun piece hpiece => ?_
      refine isToken_trim (fun c hc => ?_) fun hempty => hne (hempty ▸ List.mem_map_of_mem hpiece)
      obtain ⟨hmem, hslash⟩ := mem_and_ne_of_mem_splitOn hpiece hc
      exact ⟨hslash, ne_of_mem_of_not_mem hmem hopening, ne_of_mem_of_not_mem hmem hclosing⟩
    rwa [splitOn_intercalate] at hspells

theorem splitTokens_eq_ok_iff (hopening : '[' ∉ cs) (hclosing : ']' ∉ cs) :
    splitTokens cs = .ok tokens ↔ Spells tokens cs ∧ tokens.length ≤ 3 := by
  rw [spells_iff hopening hclosing]
  unfold splitTokens
  generalize (splitOn '/' cs).map trim = found
  have hany : found.any List.isEmpty = decide ([] ∈ found) := by
    rw [Bool.eq_iff_iff]
    simp
  by_cases hempty : [] ∈ found
  · simp only [hany, hempty, decide_true, if_true, reduceCtorEq, false_iff]
    rintro ⟨⟨rfl, hne⟩, -⟩
    exact hne hempty
  · simp only [hany, hempty, decide_false, Bool.false_eq_true, if_false]
    by_cases hlength : 3 < found.length
    · simp only [hlength, if_true, reduceCtorEq, false_iff]
      rintro ⟨⟨rfl, -⟩, hle⟩
      omega
    · simp only [hlength, if_false, Except.ok.injEq]
      constructor
      · rintro rfl
        exact ⟨⟨rfl, hempty⟩, by omega⟩
      · rintro ⟨⟨rfl, -⟩, -⟩
        rfl

/-- Some character of tokens between slashes is not a blank. -/
theorem Spells.not_isBlanks (h : Spells tokens cs) : ¬IsBlanks cs := by
  intro hblanks
  have hpieces := h.map_trim_splitOn
  have hslash : '/' ∉ cs := not_mem_of_isBlanks hblanks rfl
  rw [splitOn_eq_singleton hslash, List.map_singleton, trim_eq_nil_iff.2 hblanks] at hpieces
  subst hpieces
  exact (h.isToken [] List.mem_cons_self).nonempty rfl

theorem groupTokens_eq_ok_iff (hopening : '[' ∉ content) (hclosing : ']' ∉ content) :
    groupTokens content = .ok tokens ↔
      Spells tokens content ∧ 2 ≤ tokens.length ∧ tokens.length ≤ 3 := by
  have hsplit : groupTokens content = .ok tokens ↔
      trim content ≠ [] ∧ splitTokens content = .ok tokens ∧ 2 ≤ tokens.length := by
    unfold groupTokens
    by_cases hempty : trim content = []
    · simp [hempty, bind, Except.bind, throw, throwThe, MonadExceptOf.throw]
    · cases splitTokens content with
      | error flaw => simp [hempty, bind, Except.bind]
      | ok found =>
          have hisEmpty : (trim content).isEmpty = false := by simpa using hempty
          simp only [hisEmpty, bind, Except.bind, pure, Except.pure, throw, throwThe,
            MonadExceptOf.throw, Bool.false_eq_true, if_false]
          split
          next hshort =>
            simp only [reduceCtorEq, Except.ok.injEq, false_iff]
            rintro ⟨-, rfl, hge⟩
            omega
          next hlong =>
            simp only [Except.ok.injEq]
            constructor
            · rintro rfl
              exact ⟨hempty, rfl, by omega⟩
            · exact fun h => h.2.1
  rw [hsplit, splitTokens_eq_ok_iff hopening hclosing, Ne, trim_eq_nil_iff]
  constructor
  · rintro ⟨-, ⟨hspells, hle⟩, hge⟩
    exact ⟨hspells, hge, hle⟩
  · rintro ⟨hspells, hge, hle⟩
    exact ⟨hspells.not_isBlanks, ⟨hspells, hle⟩, hge⟩

/-! ### Groups in brackets -/

/-- Texts that go on within brackets which have held `content` so far. -/
def Closes (content : List Char) (found : List (List (List Char))) (cs : List Char) : Prop :=
  ∃ inner rest tokens later, cs = inner ++ ']' :: rest ∧ Spells tokens (content ++ inner) ∧
    (2 ≤ tokens.length ∧ tokens.length ≤ 3) ∧ Brackets later rest ∧ found = tokens :: later

theorem Brackets.cons {rest : List Char} (hspells : Spells tokens content)
    (hlength : 2 ≤ tokens.length ∧ tokens.length ≤ 3) (hrest : Brackets found rest) :
    Brackets (tokens :: found) ('[' :: (content ++ ']' :: rest)) :=
  .group isBlanks_nil hspells hlength.1 hlength.2 hrest

theorem brackets_nil_iff : Brackets found [] ↔ found = [] := by
  constructor
  · intro h
    generalize hcs : ([] : List Char) = cs at h
    cases h with
    | done _ => rfl
    | group _ _ _ _ _ => simp at hcs
  · rintro rfl
    exact .done isBlanks_nil

theorem brackets_cons_iff {c : Char} : Brackets found (c :: cs) ↔
    c = '[' ∧ Closes [] found cs ∨ isBlank c = true ∧ Brackets found cs := by
  constructor
  · intro h
    generalize htext : c :: cs = text at h
    cases h with
    | done isBlanks =>
        subst htext
        obtain ⟨hc, hcs⟩ := List.forall_mem_cons.1 isBlanks
        exact .inr ⟨hc, .done hcs⟩
    | @group left content rest tokens later isBlanks spells two_le le_three brackets =>
        cases left with
        | nil =>
            obtain ⟨rfl, rfl⟩ := List.cons.inj htext
            exact .inl ⟨rfl, content, rest, tokens, later, rfl, spells, ⟨two_le, le_three⟩,
              brackets, rfl⟩
        | cons blank left =>
            obtain ⟨rfl, rfl⟩ := List.cons.inj htext
            obtain ⟨hc, hleft⟩ := List.forall_mem_cons.1 isBlanks
            exact .inr ⟨hc, .group hleft spells two_le le_three brackets⟩
  · rintro (⟨rfl, inner, rest, tokens, later, rfl, spells, hlength, brackets, rfl⟩ | ⟨hc, h⟩)
    · exact .cons spells hlength brackets
    · cases h with
      | done isBlanks => exact .done (List.forall_mem_cons.2 ⟨hc, isBlanks⟩)
      | group isBlanks spells two_le le_three brackets =>
          exact .group (List.forall_mem_cons.2 ⟨hc, isBlanks⟩) spells two_le le_three brackets

theorem not_closes_nil : ¬Closes content found [] := by
  rintro ⟨inner, rest, tokens, later, hcs, -⟩
  simp at hcs

theorem closes_cons_iff {c : Char} : Closes content found (c :: cs) ↔
    (c = ']' ∧ ∃ tokens later, Spells tokens content ∧ (2 ≤ tokens.length ∧ tokens.length ≤ 3) ∧
      Brackets later cs ∧ found = tokens :: later) ∨
    (c ≠ '[' ∧ c ≠ ']' ∧ Closes (content ++ [c]) found cs) := by
  constructor
  · rintro ⟨inner, rest, tokens, later, hcs, spells, hlength, brackets, rfl⟩
    cases inner with
    | nil =>
        obtain ⟨rfl, rfl⟩ := List.cons.inj hcs
        rw [List.append_nil] at spells
        exact .inl ⟨rfl, tokens, later, spells, hlength, brackets, rfl⟩
    | cons first inner =>
        obtain ⟨rfl, rfl⟩ := List.cons.inj hcs
        obtain ⟨hopening, hclosing⟩ := spells.unbracketed
        simp only [List.mem_append, List.mem_cons, not_or] at hopening hclosing
        refine .inr ⟨Ne.symm hopening.2.1, Ne.symm hclosing.2.1, inner, rest, tokens, later, rfl,
          ?_, hlength, brackets, rfl⟩
        rwa [List.append_assoc, List.singleton_append]
  · rintro (⟨rfl, tokens, later, spells, hlength, brackets, rfl⟩ |
      ⟨-, -, inner, rest, tokens, later, rfl, spells, hlength, brackets, rfl⟩)
    · refine ⟨[], cs, tokens, later, rfl, ?_, hlength, brackets, rfl⟩
      rwa [List.append_nil]
    · refine ⟨c :: inner, rest, tokens, later, rfl, ?_, hlength, brackets, rfl⟩
      rwa [List.append_assoc, List.singleton_append] at spells

theorem groups_closing_eq_ok_iff : groups (some content) (']' :: cs) = .ok found ↔
    ∃ tokens later, groupTokens content = .ok tokens ∧ groups none cs = .ok later ∧
      found = tokens :: later := by
  rw [groups, if_pos rfl]
  cases groupTokens content with
  | error flaw => simp
  | ok tokens =>
      cases groups none cs with
      | error fault => simp [Functor.map, Except.map]
      | ok later => simp [Functor.map, Except.map, eq_comm]

/-- Outside of brackets and within them, the scanner reads what the language says and nothing
else. -/
theorem groups_eq_ok_iff_of (cs : List Char) :
    (∀ found, groups none cs = .ok found ↔ Brackets found cs) ∧
    ∀ content found, '[' ∉ content → ']' ∉ content →
      (groups (some content) cs = .ok found ↔ Closes content found cs) := by
  -- a bracket leads from the one state of the scanner to the other, so both are treated at once
  induction cs with
  | nil =>
      refine ⟨fun found => ?_, fun content found _ _ => ?_⟩
      · rw [brackets_nil_iff, groups, Except.ok.injEq, eq_comm]
      · simp [groups, not_closes_nil]
  | cons c cs ih =>
      obtain ⟨houtside, hwithin⟩ := ih
      refine ⟨fun found => ?_, fun content found hopening hclosing => ?_⟩
      · rw [brackets_cons_iff]
        by_cases hc : c = '['
        · have hblank : isBlank '[' = false := rfl
          subst hc
          rw [groups, if_pos rfl, hwithin [] found (by simp) (by simp)]
          simp [hblank]
        · by_cases hblank : isBlank c = true <;> simp [groups, hc, hblank, houtside found]
      · rw [closes_cons_iff]
        by_cases hc : c = ']'
        · subst hc
          simp only [groups_closing_eq_ok_iff, groupTokens_eq_ok_iff hopening hclosing, houtside]
          simp [and_assoc]
        · by_cases hnested : c = '['
          · simp [groups, hnested]
          · have hnext := hwithin (content ++ [c]) found (by simp [hopening, Ne.symm hnested])
              (by simp [hclosing, Ne.symm hc])
            simp [groups, hc, hnested, hnext]

theorem groups_eq_ok_iff : groups none cs = .ok found ↔ Brackets found cs :=
  (groups_eq_ok_iff_of cs).1 found

/-! ### Blanks around a cell -/

theorem Spells.append (h : Spells tokens cs) (hleft : IsBlanks left) (hright : IsBlanks right) :
    Spells tokens (left ++ (cs ++ right)) := by
  induction h generalizing left with
  | last isToken pads => exact .last isToken (pads.append hleft hright)
  | next isToken pads _ ih =>
      have hspells := Spells.next isToken (pads.append hleft isBlanks_nil) (ih isBlanks_nil)
      simpa using hspells

/-- Tokens between slashes need no blanks in front of the first and behind the last of them. -/
theorem Spells.exists_trimmed (h : Spells tokens cs) :
    ∃ body, Spells tokens body ∧ IsTrimmed body ∧ Pads body cs := by
  induction h with
  | @last token _ isToken pads =>
      exact ⟨token, .last isToken (.refl token), isToken.trimmed, pads⟩
  | @next token _ _ tokens isToken pads _ ih =>
      obtain ⟨left, right, hleft, hright, rfl⟩ := pads
      obtain ⟨body, spells, trimmed, before, behind, hbefore, hbehind, rfl⟩ := ih
      have hbody : body ≠ [] := by
        rintro rfl
        exact spells.not_isBlanks isBlanks_nil
      refine ⟨token ++ ((right ++ '/' :: before) ++ body), ?_, ?_, left, behind, hleft, hbehind, ?_⟩
      · have hpads : Pads token ([] ++ (token ++ right)) :=
          Pads.append (.refl token) isBlanks_nil hright
        have hspells := Spells.next isToken hpads (spells.append hbefore isBlanks_nil)
        simpa using hspells
      · exact isToken.trimmed.append trimmed isToken.nonempty hbody (right ++ '/' :: before)
      · simp

theorem spells_trim_iff : Spells tokens (trim cs) ↔ Spells tokens cs := by
  constructor
  · intro h
    obtain ⟨left, right, hleft, hright, hcs⟩ := pads_trim cs
    rw [hcs]
    exact h.append hleft hright
  · intro h
    obtain ⟨body, spells, trimmed, pads⟩ := h.exists_trimmed
    rwa [trim_eq_iff.2 ⟨trimmed, pads⟩]

theorem groups_blanks_append (hleft : IsBlanks left) :
    groups none (left ++ cs) = groups none cs := by
  induction left with
  | nil => rfl
  | cons c left ih =>
      obtain ⟨hc, hleft⟩ := List.forall_mem_cons.1 hleft
      rw [List.cons_append, groups, if_neg (ne_of_isBlank hc rfl), if_pos hc, ih hleft]

theorem groups_unclosed (hright : IsBlanks right) (content : List Char) :
    groups (some content) right = .error .unclosed := by
  induction right generalizing content with
  | nil => rfl
  | cons c right ih =>
      obtain ⟨hc, hright⟩ := List.forall_mem_cons.1 hright
      rw [groups, if_neg (ne_of_isBlank hc rfl), if_neg (ne_of_isBlank hc rfl)]
      exact ih hright (content ++ [c])

theorem groups_append_blanks (hright : IsBlanks right) (inside : Option (List Char)) :
    groups inside (cs ++ right) = groups inside cs := by
  induction cs generalizing inside with
  | nil =>
      cases inside with
      | none =>
          have hblanks : groups none (right ++ []) = groups none [] := groups_blanks_append hright
          rwa [List.append_nil] at hblanks
      | some content => exact groups_unclosed hright content
  | cons c cs ih => cases inside <;> simp only [List.cons_append, groups, ih]

theorem brackets_trim_iff : Brackets found (trim cs) ↔ Brackets found cs := by
  obtain ⟨left, right, hleft, hright, hcs⟩ := pads_trim cs
  rw [← groups_eq_ok_iff, ← groups_eq_ok_iff]
  conv_rhs => rw [hcs, groups_blanks_append hleft, groups_append_blanks hright]

/-! ### Cells -/

theorem Brackets.count_eq (h : Brackets found cs) : cs.count '[' = cs.count ']' := by
  have hblanks : ∀ {text : List Char} {mark : Char}, IsBlanks text → isBlank mark = false →
      text.count mark = 0 := fun htext hmark =>
    List.count_eq_zero.2 (not_mem_of_isBlanks htext hmark)
  induction h with
  | done isBlanks => rw [hblanks isBlanks rfl, hblanks isBlanks rfl]
  | group isBlanks spells _ _ _ ih =>
      obtain ⟨hopening, hclosing⟩ := spells.unbracketed
      have hleft := @hblanks _ '[' isBlanks rfl
      have hright := @hblanks _ ']' isBlanks rfl
      simp [hleft, hright, List.count_eq_zero.2 hopening, List.count_eq_zero.2 hclosing, ih]

theorem Brackets.mem_of_ne_nil (h : Brackets found cs) (hne : found ≠ []) : '[' ∈ cs := by
  cases h with
  | done _ => contradiction
  | group _ _ _ _ _ => simp

theorem writes_iff_of_isBlanks (h : IsBlanks cs) : Writes found cs ↔ found = [] := by
  constructor
  · intro hwrites
    cases hwrites with
    | blank _ => rfl
    | bare spells _ => exact absurd h spells.not_isBlanks
    | bracketed nonempty brackets =>
        exact absurd (brackets.mem_of_ne_nil nonempty) (not_mem_of_isBlanks h rfl)
  · rintro rfl
    exact .blank h

theorem writes_iff_of_unbracketed (hne : ¬IsBlanks cs) (hopening : '[' ∉ trim cs) :
    Writes found cs ↔ ∃ tokens, found = [tokens] ∧ Spells tokens (trim cs) ∧ tokens.length ≤ 3 := by
  constructor
  · intro hwrites
    cases hwrites with
    | blank isBlanks => contradiction
    | bare spells le_three => exact ⟨_, rfl, spells_trim_iff.2 spells, le_three⟩
    | bracketed nonempty brackets =>
        exact absurd ((brackets_trim_iff.2 brackets).mem_of_ne_nil nonempty) hopening
  · rintro ⟨tokens, rfl, spells, le_three⟩
    exact .bare (spells_trim_iff.1 spells) le_three

theorem writes_iff_of_bracketed (hopening : '[' ∈ trim cs) :
    Writes found cs ↔ Brackets found (trim cs) := by
  have hnotBlanks : ¬IsBlanks cs := by
    intro hblanks
    rw [trim_eq_nil_iff.2 hblanks] at hopening
    contradiction
  constructor
  · intro hwrites
    cases hwrites with
    | blank isBlanks => contradiction
    | bare spells _ => exact absurd hopening (spells_trim_iff.2 spells).unbracketed.1
    | bracketed _ brackets => exact brackets_trim_iff.2 brackets
  · intro h
    refine .bracketed ?_ (brackets_trim_iff.1 h)
    rintro rfl
    cases h with
    | done isBlanks => exact not_mem_of_isBlanks isBlanks rfl hopening

theorem map_ofList_eq_iff {groups : List (List String)} :
    found.map (·.map String.ofList) = groups ↔ found = groups.map (·.map String.toList) := by
  constructor
  · rintro rfl
    simp [Function.comp_def]
  · rintro rfl
    simp [Function.comp_def]

theorem tokenize_of_unbracketed {cell : String} {groups : List (List String)}
    (hne : trim cell.toList ≠ []) (hopening : '[' ∉ trim cell.toList) :
    tokenize cell = .ok groups ↔ ']' ∉ trim cell.toList ∧
      ∃ tokens, splitTokens (trim cell.toList) = .ok tokens ∧
        [tokens].map (·.map String.ofList) = groups := by
  have hnone : (trim cell.toList).count '[' = 0 := List.count_eq_zero.2 hopening
  by_cases hclosing : ']' ∈ trim cell.toList
  · have hsome : (trim cell.toList).count ']' ≠ 0 := (List.count_pos_iff.2 hclosing).ne'
    simp [tokenize, hne, hnone, hsome, hclosing]
  · have hnone' : (trim cell.toList).count ']' = 0 := List.count_eq_zero.2 hclosing
    cases hsplit : splitTokens (trim cell.toList) with
    | error flaw => simp [tokenize, hne, hnone, hnone', hsplit]
    | ok tokens => simp [tokenize, hne, hnone, hnone', hsplit, hclosing]

theorem tokenize_of_bracketed {cell : String} {groups : List (List String)}
    (hopening : '[' ∈ trim cell.toList) :
    tokenize cell = .ok groups ↔
      (trim cell.toList).count '[' = (trim cell.toList).count ']' ∧
      Cell.groups none (trim cell.toList) = .ok (groups.map (·.map String.toList)) := by
  have hne : trim cell.toList ≠ [] := List.ne_nil_of_mem hopening
  have hsome : (trim cell.toList).count '[' ≠ 0 := (List.count_pos_iff.2 hopening).ne'
  by_cases hcounts : (trim cell.toList).count '[' = (trim cell.toList).count ']'
  · have hsome' : (trim cell.toList).count ']' ≠ 0 := hcounts ▸ hsome
    cases hgroups : Cell.groups none (trim cell.toList) with
    | error fault => cases fault <;> simp [tokenize, hne, hsome', hcounts, hgroups]
    | ok found =>
        simp [tokenize, hne, hsome', hcounts, hgroups, map_ofList_eq_iff]
  · simp [tokenize, hne, hsome, hcounts]

/-- A cell is read as the groups of tokens that it is written for. -/
theorem tokenize_eq_ok_iff {cell : String} {groups : List (List String)} :
    tokenize cell = .ok groups ↔ Writes (groups.map (·.map String.toList)) cell.toList := by
  by_cases hempty : trim cell.toList = []
  · rw [writes_iff_of_isBlanks (trim_eq_nil_iff.1 hempty)]
    simp [tokenize, hempty, eq_comm]
  by_cases hopening : '[' ∈ trim cell.toList
  · rw [writes_iff_of_bracketed hopening, tokenize_of_bracketed hopening, groups_eq_ok_iff]
    exact and_iff_right_of_imp Brackets.count_eq
  · rw [writes_iff_of_unbracketed (mt trim_eq_nil_iff.2 hempty) hopening,
      tokenize_of_unbracketed hempty hopening]
    simp only [map_ofList_eq_iff]
    constructor
    · rintro ⟨hclosing, tokens, hsplit, hgroups⟩
      exact ⟨tokens, hgroups.symm, (splitTokens_eq_ok_iff hopening hclosing).1 hsplit⟩
    · rintro ⟨tokens, hgroups, spells, le_three⟩
      -- the text has no opening bracket, and as one of tokens it has no closing one either
      have hclosing := spells.unbracketed.2
      have hsplit := (splitTokens_eq_ok_iff hopening hclosing).2 ⟨spells, le_three⟩
      exact ⟨hclosing, tokens, hsplit, hgroups.symm⟩

/-! ### Rendered cells -/

/-- Whether groups of tokens can stand in a cell: a group has one to three tokens, and a group that
stands beside another one has two or three. -/
structure Fits (groups : List (List String)) : Prop where
  isToken : ∀ tokens ∈ groups, ∀ token ∈ tokens, IsToken token.toList
  lengths : ∀ tokens ∈ groups, 1 ≤ tokens.length ∧ tokens.length ≤ 3
  bracketed : 2 ≤ groups.length → ∀ tokens ∈ groups, 2 ≤ tokens.length

/-- The cell that holds the groups in brackets, a single group also. -/
def renderBracketed (groups : List (List String)) : String :=
  String.join (groups.map fun tokens => "[" ++ renderGroup tokens ++ "]")

section Rendering

variable {groups : List (List String)}

theorem spells_renderGroup {tokens : List String} (hne : tokens ≠ [])
    (htokens : ∀ token ∈ tokens, IsToken token.toList) :
    Spells (tokens.map String.toList) (renderGroup tokens).toList := by
  have htrim : ∀ piece ∈ tokens.map String.toList, trim piece = piece ∧ IsToken piece := by
    intro piece hpiece
    obtain ⟨token, htoken, rfl⟩ := List.mem_map.1 hpiece
    have hisToken := htokens token htoken
    exact ⟨trim_eq_iff.2 ⟨hisToken.trimmed, .refl token.toList⟩, hisToken⟩
  have hmap : (tokens.map String.toList).map trim = tokens.map String.toList :=
    (List.map_congr_left fun piece hpiece => (htrim piece hpiece).1).trans (List.map_id _)
  have hspells : Spells ((tokens.map String.toList).map trim)
      (['/'].intercalate (tokens.map String.toList)) := by
    apply spells_intercalate (by simpa using hne)
    intro piece hpiece
    rw [(htrim piece hpiece).1]
    exact (htrim piece hpiece).2
  rw [hmap] at hspells
  have htext : (renderGroup tokens).toList = ['/'].intercalate (tokens.map String.toList) :=
    String.toList_ofList
  rwa [htext]

theorem brackets_renderBracketed
    (hgroups : ∀ tokens ∈ groups, (∀ token ∈ tokens, IsToken token.toList) ∧
      2 ≤ tokens.length ∧ tokens.length ≤ 3) :
    Brackets (groups.map (·.map String.toList)) (renderBracketed groups).toList := by
  induction groups with
  | nil => exact .done (by simp [renderBracketed, IsBlanks])
  | cons tokens groups ih =>
      obtain ⟨⟨htokens, hge, hle⟩, hrest⟩ := List.forall_mem_cons.1 hgroups
      have hne : tokens ≠ [] := List.ne_nil_of_length_pos (by omega)
      have hgroup := Brackets.cons (spells_renderGroup hne htokens)
        ⟨by simpa using hge, by simpa using hle⟩ (ih hrest)
      simpa [renderBracketed, String.toList_join] using hgroup

theorem tokenize_renderBracketed
    (hgroups : ∀ tokens ∈ groups, (∀ token ∈ tokens, IsToken token.toList) ∧
      2 ≤ tokens.length ∧ tokens.length ≤ 3) :
    tokenize (renderBracketed groups) = .ok groups := by
  have hbrackets := brackets_renderBracketed hgroups
  rw [tokenize_eq_ok_iff]
  cases groups with
  | nil => exact .blank (by simp [renderBracketed, IsBlanks])
  | cons tokens groups => exact .bracketed (by simp) hbrackets

theorem Fits.of_brackets (h : Brackets (groups.map (·.map String.toList)) cs) :
    ∀ tokens ∈ groups, (∀ token ∈ tokens, IsToken token.toList) ∧
      2 ≤ tokens.length ∧ tokens.length ≤ 3 := by
  generalize hfound : groups.map (·.map String.toList) = found at h
  induction h generalizing groups with
  | done _ => simp [List.map_eq_nil_iff.1 hfound]
  | group _ spells two_le le_three _ ih =>
      obtain ⟨tokens, later, rfl, rfl, hlater⟩ := List.map_eq_cons_iff.1 hfound
      refine List.forall_mem_cons.2 ⟨⟨fun token htoken => ?_, ?_⟩, ih hlater⟩
      · exact spells.isToken token.toList (List.mem_map_of_mem htoken)
      · simpa using And.intro two_le le_three

/-- What is read from a cell can stand in a cell. -/
theorem Fits.of_writes (h : Writes (groups.map (·.map String.toList)) cs) : Fits groups := by
  generalize hfound : groups.map (·.map String.toList) = found at h
  cases h with
  | blank _ =>
      obtain rfl := List.map_eq_nil_iff.1 hfound
      exact ⟨by simp, by simp, by simp⟩
  | bare spells le_three =>
      obtain ⟨tokens, rfl, rfl⟩ := List.map_eq_singleton_iff.1 hfound
      refine ⟨?_, ?_, by simp⟩
      · simpa using spells.isToken
      · have hpos := List.length_pos_iff.2 spells.ne_nil
        rw [List.length_map] at hpos le_three
        exact List.forall_mem_singleton.2 ⟨hpos, le_three⟩
  | bracketed _ brackets =>
      subst hfound
      have hgroups := Fits.of_brackets brackets
      exact ⟨fun tokens h => (hgroups tokens h).1,
        fun tokens h => ⟨by have := (hgroups tokens h).2.1; omega, (hgroups tokens h).2.2⟩,
        fun _ tokens h => (hgroups tokens h).2.1⟩

/-- Groups that can stand in a cell are read back from the cell that is rendered for them. -/
theorem tokenize_renderGroups (h : Fits groups) : tokenize (renderGroups groups) = .ok groups := by
  have hbracketed : groups.length ≠ 1 → tokenize (renderBracketed groups) = .ok groups := by
    intro hlength
    refine tokenize_renderBracketed fun tokens htokens => ⟨h.isToken tokens htokens, ?_⟩
    have hpos := List.length_pos_of_mem htokens
    exact ⟨h.bracketed (by omega) tokens htokens, (h.lengths tokens htokens).2⟩
  match groups with
  | [] => exact hbracketed (by simp)
  | [tokens] =>
      obtain ⟨hge, hle⟩ := h.lengths tokens List.mem_cons_self
      have hspells := spells_renderGroup (List.ne_nil_of_length_pos hge)
        (h.isToken tokens List.mem_cons_self)
      exact tokenize_eq_ok_iff.2 (.bare hspells (by simpa using hle))
  | first :: second :: later => exact hbracketed (by simp)

/-- **The cells that are read.** A cell is read as groups of tokens exactly if it is written for
them, every token that is read is well formed, and the groups that are read from some cell are read
again from the cell rendered for them, be it bare or in brackets. -/
theorem tokenize_reads_grammar (cell : String) (groups : List (List String)) :
    (tokenize cell = .ok groups ↔ Writes (groups.map (·.map String.toList)) cell.toList) ∧
    (tokenize cell = .ok groups → Fits groups) ∧
    (Fits groups → tokenize (renderGroups groups) = .ok groups ∧
      ((∀ tokens ∈ groups, 2 ≤ tokens.length) →
        tokenize (renderBracketed groups) = .ok groups)) := by
  refine ⟨tokenize_eq_ok_iff, fun h => Fits.of_writes (tokenize_eq_ok_iff.1 h), fun h => ?_⟩
  refine ⟨tokenize_renderGroups h, fun hge => ?_⟩
  exact tokenize_renderBracketed fun tokens htokens =>
    ⟨h.isToken tokens htokens, hge tokens htokens, (h.lengths tokens htokens).2⟩

/-- A cell with blanks around brackets and within a token, read and rendered again. -/
theorem tokenize_reads_grammar_gates :
    Writes [["ready".toList, "open".toList], ["open".toList, "half way".toList, "log".toList]]
      " [ready / open] [open/half way/log]".toList ∧
    Fits [["ready", "open"], ["open", "half way", "log"]] ∧
    tokenize "[ready/open][open/half way/log]" =
      .ok [["ready", "open"], ["open", "half way", "log"]] := by
  obtain ⟨hwrites, hfits, hrender⟩ := tokenize_reads_grammar " [ready / open] [open/half way/log]"
    [["ready", "open"], ["open", "half way", "log"]]
  have hread : tokenize " [ready / open] [open/half way/log]" =
      .ok [["ready", "open"], ["open", "half way", "log"]] := by decide +kernel
  have htext : renderBracketed [["ready", "open"], ["open", "half way", "log"]] =
      "[ready/open][open/half way/log]" := by decide +kernel
  have hlengths : ∀ tokens ∈ [["ready", "open"], ["open", "half way", "log"]],
      2 ≤ tokens.length := by decide
  refine ⟨hwrites.1 hread, hfits hread, ?_⟩
  rw [← htext]
  exact (hrender (hfits hread)).2 hlengths

end Rendering

end GridMachine.Cell
