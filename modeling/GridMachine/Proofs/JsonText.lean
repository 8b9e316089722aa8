import GridMachine.Json.Outline
import GridMachine.Json.Printer
import GridMachine.Proofs.InOrder
import Mathlib.Data.List.Forall2

/-!
JSON texts that have been written. A text literal is read as the text that was written in it, and a
value that is put together from such literals is read as the document that is put together in the
same way, whatever spaces are before it.
-/

namespace GridMachine

/-! ### Documents -/

namespace Document.Node

variable {α : Type}

/-- Whether pieces make up the next items of the collection that is open. -/
def AddTo (pieces : List (Piece α)) (items : List (Node α)) : Prop :=
  ∀ frame frames rest,
    assemble (frame :: frames) (pieces ++ rest) =
      assemble (⟨frame.isRecord, items.reverse ++ frame.items⟩ :: frames) rest

/-- Whether pieces make up one node, within a collection or by themselves. -/
structure MakeUp (pieces : List (Piece α)) (node : Node α) : Prop where
  within : AddTo pieces [node]
  alone : ∀ rest, assemble [] (pieces ++ rest) = node

theorem AddTo.nil : AddTo ([] : List (Piece α)) [] := fun _ _ _ => rfl

theorem AddTo.append {before after : List (Piece α)} {items more : List (Node α)}
    (hbefore : AddTo before items) (hafter : AddTo after more) :
    AddTo (before ++ after) (items ++ more) := by
  intro frame frames rest
  rw [List.append_assoc, hbefore, hafter, List.reverse_append, List.append_assoc]

theorem MakeUp.leaf (value : α) : MakeUp [.leaf value] (.leaf value) :=
  ⟨fun _ _ _ => rfl, fun _ => rfl⟩

theorem AddTo.list {pieces : List (Piece α)} {items : List (Node α)} (h : AddTo pieces items) :
    MakeUp (.openList :: (pieces ++ [.closeList])) (.list items) where
  within frame frames rest := by
    rw [List.cons_append, List.append_assoc, assemble, h]
    simp [assemble, Frame.close, Frame.push]
  alone rest := by
    rw [List.cons_append, List.append_assoc, assemble, h]
    simp [assemble, Frame.close]

theorem AddTo.record {pieces : List (Piece α)} {items : List (Node α)} (h : AddTo pieces items) :
    MakeUp (.openRecord :: (pieces ++ [.closeRecord])) (.record items) where
  within frame frames rest := by
    rw [List.cons_append, List.append_assoc, assemble, h]
    simp [assemble, Frame.close, Frame.push]
  alone rest := by
    rw [List.cons_append, List.append_assoc, assemble, h]
    simp [assemble, Frame.close]

end Document.Node

namespace Json

open Document

/-! ### Text literals -/

namespace Unit16

/-- Whether a unit stands for a character: itself, or a control character by its code. -/
def StandsFor (unit : Unit16) (c : Char) : Prop :=
  unit = .plain c ∨ c.toNat < 0x20 ∧ unit = .code c.toNat

theorem characters?_cons {unit : Unit16} {c : Char} (h : unit.StandsFor c) (units : List Unit16) :
    characters? (unit :: units) = (c :: ·) <$> characters? units := by
  rcases h with rfl | ⟨hcontrol, rfl⟩
  · rfl
  · have hhigh : isHighSurrogate c.toNat = false := by simp [isHighSurrogate]; omega
    have hlow : isLowSurrogate c.toNat = false := by simp [isLowSurrogate]; omega
    -- a code may be the first half of a pair, so the next unit is looked at too
    cases units with
    | nil => simp [characters?, hhigh, hlow]
    | cons next units => cases next <;> simp [characters?, hhigh, hlow]

end Unit16

theorem hexValue?_fourHexDigits {n : Nat} (h : n < 0x20) :
    (fourHexDigits n).length = 4 ∧ Text.hexValue? (fourHexDigits n) = some n := by
  revert n
  decide

section Literal

variable {c letter : Char} {cs rest : List Char} {units : List Unit16}

theorem literalUnits?_simple (hletter : simpleEscape? letter = some c)
    (h : literalUnits? cs = some (units, rest)) :
    literalUnits? ('\\' :: letter :: cs) = some (.plain c :: units, rest) := by
  have hne : letter ≠ 'u' := by
    rintro rfl
    simp [simpleEscape?] at hletter
  rw [literalUnits?, hletter, h]
  · rfl
  · exact fun _ _ _ _ _ heq => absurd heq hne

theorem literalUnits?_code (hcontrol : c.toNat < 0x20) (h : literalUnits? cs = some (units, rest)) :
    literalUnits? ('\\' :: 'u' :: fourHexDigits c.toNat ++ cs) =
      some (.code c.toNat :: units, rest) := by
  obtain ⟨hlength, hvalue⟩ := hexValue?_fourHexDigits hcontrol
  obtain ⟨a, b, d, e, hdigits⟩ := List.length_eq_four.1 hlength
  rw [hdigits] at hvalue ⊢
  simp [literalUnits?, hvalue, h]

theorem literalUnits?_plain (hquote : c ≠ '\x22') (hbackslash : c ≠ '\\')
    (hcontrol : ¬c.toNat < 0x20) (h : literalUnits? cs = some (units, rest)) :
    literalUnits? (c :: cs) = some (.plain c :: units, rest) := by
  rw [literalUnits?, h]
  · simp [hbackslash, hcontrol]
  all_goals simp_all

/-- What is written for a character is read as one unit that stands for it. -/
theorem literalUnits?_escapeChar (c : Char) :
    ∃ unit : Unit16, unit.StandsFor c ∧ ∀ cs units rest, literalUnits? cs = some (units, rest) →
      literalUnits? (escapeChar c ++ cs) = some (unit :: units, rest) := by
  unfold escapeChar
  split
  -- all but the last alternative are characters that have a letter of their own
  case h_8 hquote hbackslash _ _ _ _ _ =>
    split
    next hcontrol =>
      exact ⟨.code c.toNat, .inr ⟨hcontrol, rfl⟩, fun _ _ _ => literalUnits?_code hcontrol⟩
    next hcontrol =>
      refine ⟨.plain c, .inl rfl, fun _ _ _ => ?_⟩
      exact literalUnits?_plain hquote hbackslash hcontrol
  all_goals exact ⟨_, .inl rfl, fun _ _ _ => literalUnits?_simple rfl⟩

theorem literalUnits?_written (cs rest : List Char) :
    ∃ units, literalUnits? (cs.flatMap escapeChar ++ '\x22' :: rest) = some (units, rest) ∧
      Unit16.characters? units = some cs := by
  induction cs with
  | nil => exact ⟨[], by simp [literalUnits?], rfl⟩
  | cons c cs ih =>
      obtain ⟨units, hunits, hcharacters⟩ := ih
      obtain ⟨unit, hunit, hread⟩ := literalUnits?_escapeChar c
      refine ⟨unit :: units, ?_, ?_⟩
      · rw [List.flatMap_cons, List.append_assoc]
        exact hread _ _ _ hunits
      · rw [Unit16.characters?_cons hunit, hcharacters]
        rfl

end Literal

/-! ### Tokens -/

/-- Whether a text writes a token: it does not begin with a space, and it is read as the token
whatever follows it. -/
structure Token.WrittenAs (token : Token) (cs : List Char) : Prop where
  head : ∀ c ∈ cs.head?, isSpace c = false
  next : ∀ rest, nextToken? (cs ++ rest) = some (token, rest)

theorem writtenAs_renderText (s : String) : (Token.leaf (.text s)).WrittenAs (renderText s) where
  head := by simp [renderText, isSpace]
  next rest := by
    obtain ⟨units, hunits, hcharacters⟩ := literalUnits?_written s.toList rest
    have hleaf :
        textLeaf? (s.toList.flatMap escapeChar ++ '\x22' :: rest) = some (.text s, rest) := by
      simp [textLeaf?, hunits, hcharacters]
    simp [renderText, nextToken?, hleaf]

/-- A mark of one character. -/
theorem writtenAs_mark {token : Token} {c : Char} (hspace : isSpace c = false)
    (hnext : ∀ rest, nextToken? (c :: rest) = some (token, rest)) : token.WrittenAs [c] where
  head := by simpa using hspace
  next := hnext

namespace Token.WrittenAs

variable {token : Token} {cs : List Char}

theorem ne_nil (h : token.WrittenAs cs) : cs ≠ [] := by
  rintro rfl
  have hnext := h.next []
  cases hnext

theorem tokensWithin_append (h : token.WrittenAs cs) (fuel : Nat) (rest : List Char) :
    tokensWithin (fuel + 1) (cs ++ rest) =
      (token :: (tokensWithin fuel rest).1, (tokensWithin fuel rest).2) := by
  obtain ⟨c, more, rfl⟩ := List.exists_cons_of_ne_nil h.ne_nil
  have hspace : isSpace c = false := h.head c rfl
  have hdrop : (c :: more ++ rest).dropWhile isSpace = c :: (more ++ rest) := by simp [hspace]
  have hnext : nextToken? (c :: (more ++ rest)) = some (token, rest) := h.next rest
  simp only [tokensWithin, hdrop, hnext]

end Token.WrittenAs

/-- Spaces before a text do not count. -/
theorem tokensWithin_append_of_isSpace {fuel : Nat} {blanks cs : List Char}
    (hblanks : ∀ c ∈ blanks, isSpace c = true) (hfuel : (blanks ++ cs).length ≤ fuel) :
    tokensWithin fuel (blanks ++ cs) = tokensWithin fuel cs := by
  cases fuel with
  | zero =>
      have hnil := List.eq_nil_of_length_eq_zero (Nat.le_zero.1 hfuel)
      obtain ⟨rfl, rfl⟩ := List.append_eq_nil_iff.1 hnil
      rfl
  | succ fuel => rw [tokensWithin, tokensWithin, List.dropWhile_append_of_pos hblanks]

/-! ### Values -/

namespace Position

/-- Whether a text that is met at one position spells the pieces and leads to another position. -/
inductive Reads : Position → List Char → List (Piece Leaf) → Position → Prop where
  | nothing (position : Position) : Reads position [] [] position
  | token {position next last : Position} {token : Token} {piece : Option (Piece Leaf)}
      {cs more : List Char} {pieces : List (Piece Leaf)} (htoken : token.WrittenAs cs)
      (hstep : position.step? token = some (piece, next)) (hrest : Reads next more pieces last) :
      Reads position (cs ++ more) (piece.toList ++ pieces) last

variable {position next last : Position} {cs more : List Char} {pieces after : List (Piece Leaf)}

theorem Reads.single {token : Token} {piece : Option (Piece Leaf)} (htoken : token.WrittenAs cs)
    (hstep : position.step? token = some (piece, next)) :
    Reads position cs piece.toList next := by
  simpa using Reads.token htoken hstep (.nothing next)

theorem Reads.append (h : Reads position cs pieces next) (hmore : Reads next more after last) :
    Reads position (cs ++ more) (pieces ++ after) last := by
  induction h with
  | nothing _ => exact hmore
  | token htoken hstep _ ih =>
      rw [List.append_assoc, List.append_assoc]
      exact .token htoken hstep (ih hmore)

/-- A text that is read to its end has tokens that spell its pieces. -/
theorem Reads.tokensWithin (h : Reads position cs pieces last) {fuel : Nat}
    (hfuel : cs.length ≤ fuel) :
    ∃ tokens, tokensWithin fuel cs = (tokens, true) ∧
      position.pieces tokens = (pieces, last.isEnd) := by
  induction h generalizing fuel with
  | nothing _ => exact ⟨[], by cases fuel <;> rfl, rfl⟩
  | @token _ _ _ token _ _ more _ htoken hstep _ ih =>
      -- a token has at least one character, so one step of fuel is enough for it
      have hlength := List.length_pos_iff.2 htoken.ne_nil
      rw [List.length_append] at hfuel
      obtain ⟨fuel, rfl⟩ : ∃ less, fuel = less + 1 := ⟨fuel - 1, by omega⟩
      have hless : more.length ≤ fuel := by omega
      obtain ⟨tokens, htokens, hpieces⟩ := ih hless
      refine ⟨token :: tokens, by rw [htoken.tokensWithin_append, htokens], ?_⟩
      rw [Position.pieces, hstep]
      simp only [hpieces]

theorem step?_of_startValue? {place : Place} {around : List Bool} {token : Token}
    {result : Option (Piece Leaf) × Position} (hplace : place = .value ∨ place = .firstItem)
    (h : startValue? around token = some result) : step? ⟨place, around⟩ token = some result := by
  rcases hplace with rfl | rfl
  · exact h
  · -- the end of an array does not start a value
    have hne : token ≠ .endArray := by
      rintro rfl
      cases h
    simp [step?, hne, h]

theorem step?_of_startName? {place : Place} {around : List Bool} {token : Token}
    {result : Option (Piece Leaf) × Position} (hplace : place = .name ∨ place = .firstName)
    (h : startName? around token = some result) : step? ⟨place, around⟩ token = some result := by
  rcases hplace with rfl | rfl
  · exact h
  · have hne : token ≠ .endObject := by
      rintro rfl
      cases h
    simp [step?, hne, h]

/-- Whether a text is read, between two positions, as the next items of what is around it. -/
def Gives (position : Position) (cs : List Char) (items : List (Node Leaf))
    (last : Position) : Prop :=
  ∃ pieces, position.Reads cs pieces last ∧ Node.AddTo pieces items

theorem Gives.append {items nodes : List (Node Leaf)}
    (h : position.Gives cs items next) (hmore : next.Gives more nodes last) :
    position.Gives (cs ++ more) (items ++ nodes) last := by
  obtain ⟨pieces, hreads, hadd⟩ := h
  obtain ⟨after, hrest, hafter⟩ := hmore
  exact ⟨pieces ++ after, hreads.append hrest, hadd.append hafter⟩

/-- A token that spells no piece. -/
theorem Gives.mark {token : Token} (htoken : token.WrittenAs cs)
    (hstep : position.step? token = some (none, next)) : position.Gives cs [] next :=
  ⟨[], .single htoken hstep, .nil⟩

section Contents

variable {around : List Bool} {mayBegin : Place → Prop} {first later : Place}
  (hcomma : step? ⟨.afterValue, around⟩ .comma = some (none, ⟨later, around⟩))
  (hlater : mayBegin later) (hfirst : mayBegin first)

include hcomma hlater hfirst

/-- Texts with commas between them are read one after the other. -/
theorem gives_intercalate {items : List (Node Leaf)} {texts : List (List Char)}
    {parts : List (List (Node Leaf))}
    (hone : ∀ place, mayBegin place → Gives ⟨place, around⟩ cs items ⟨.afterValue, around⟩)
    (hmore : List.Forall₂ (fun cs items => ∀ place, mayBegin place →
      Gives ⟨place, around⟩ cs items ⟨.afterValue, around⟩) texts parts) :
    Gives ⟨first, around⟩ ([','].intercalate (cs :: texts)) (items ++ parts.flatten)
      ⟨.afterValue, around⟩ := by
  induction hmore generalizing first cs items with
  | nil => simpa using hone first hfirst
  | cons hnext _ ih =>
      have hmark : Token.comma.WrittenAs [','] := writtenAs_mark rfl fun _ => rfl
      have hrest := (Gives.mark hmark hcomma).append (ih hlater hnext)
      rw [List.intercalate_cons_cons, List.append_assoc]
      exact (hone first hfirst).append hrest

/-- What is in a collection is read up to where the collection may end. -/
theorem gives_contents {texts : List (List Char)} {parts : List (List (Node Leaf))}
    (h : List.Forall₂ (fun cs items => ∀ place, mayBegin place →
      Gives ⟨place, around⟩ cs items ⟨.afterValue, around⟩) texts parts) :
    ∃ place, (place = first ∨ place = .afterValue) ∧
      Gives ⟨first, around⟩ ([','].intercalate texts) parts.flatten ⟨place, around⟩ := by
  cases h with
  | nil => exact ⟨first, .inl rfl, [], .nothing _, .nil⟩
  | cons hone hmore =>
      exact ⟨.afterValue, .inr rfl, gives_intercalate hcomma hlater hfirst hone hmore⟩

end Contents

end Position

/-- Whether a value, as it is written, is read as a node wherever a value may stand. -/
def ReadAs (value : Json) (node : Node Leaf) : Prop :=
  ∀ place around, place = .value ∨ place = .firstItem →
    ∃ pieces, Position.Reads ⟨place, around⟩ (render value) pieces ⟨.afterValue, around⟩ ∧
      Node.MakeUp pieces node

theorem readAs_text (s : String) : ReadAs (.text s) (.leaf (.text s)) := by
  intro place around hplace
  rw [render]
  exact ⟨_, .single (writtenAs_renderText s) (Position.step?_of_startValue? hplace rfl),
    Node.MakeUp.leaf _⟩

theorem renderItems_eq (items : List Json) :
    renderItems items = [','].intercalate (items.map render) := by
  induction items with
  | nil => rfl
  | cons item items ih =>
      cases items with
      | nil => simp [renderItems]
      | cons next items =>
          rw [renderItems, ih]
          · simp
          · simp

/-- A member as it is written. -/
def renderMember (member : String × Json) : List Char :=
  renderText member.1 ++ [':'] ++ render member.2

theorem renderMembers_eq (members : List (String × Json)) :
    renderMembers members = [','].intercalate (members.map renderMember) := by
  induction members with
  | nil => rfl
  | cons member members ih =>
      cases members with
      | nil => simp [renderMembers, renderMember]
      | cons next members =>
          rw [renderMembers, ih]
          · simp [renderMember]
          · simp

/-- An array is read as the list of what its items are read as. -/
theorem readAs_array {items : List Json} {nodes : List (Node Leaf)}
    (h : List.Forall₂ ReadAs items nodes) : ReadAs (.array items) (.list nodes) := by
  intro place around hplace
  have hitems : List.Forall₂ (fun cs part => ∀ place, place = .value ∨ place = .firstItem →
      Position.Gives ⟨place, false :: around⟩ cs part ⟨.afterValue, false :: around⟩)
      (items.map render) (nodes.map fun node => [node]) := by
    rw [List.forall₂_map_left_iff, List.forall₂_map_right_iff]
    refine h.imp fun item node hitem place hplace => ?_
    obtain ⟨pieces, hreads, hmake⟩ := hitem place (false :: around) hplace
    exact ⟨pieces, hreads, hmake.within⟩
  obtain ⟨last, hlast, pieces, hreads, hadd⟩ :=
    Position.gives_contents rfl (.inl rfl) (.inr rfl) hitems
  rw [← renderItems_eq] at hreads
  rw [← List.flatMap_def, List.flatMap_singleton'] at hadd
  have hbegin : Token.beginArray.WrittenAs ['['] := writtenAs_mark rfl fun _ => rfl
  have hopen : Position.Reads ⟨place, around⟩ ['['] [.openList] ⟨.firstItem, false :: around⟩ :=
    .single hbegin (Position.step?_of_startValue? hplace rfl)
  have hclose : Position.step? ⟨last, false :: around⟩ .endArray =
      some (some .closeList, ⟨.afterValue, around⟩) := by
    rcases hlast with rfl | rfl <;> rfl
  have hend : Token.endArray.WrittenAs [']'] := writtenAs_mark rfl fun _ => rfl
  refine ⟨_, ?_, hadd.list⟩
  rw [render]
  exact (hopen.append hreads).append (.single hend hclose)

/-- The items of a record with the given members. -/
def memberNodes (fields : List (String × Node Leaf)) : List (Node Leaf) :=
  fields.flatMap fun (name, value) => [.leaf (.text name), value]

theorem gives_renderMember {member : String × Json} {field : String × Node Leaf}
    (hname : member.1 = field.1) (hvalue : ReadAs member.2 field.2) {place : Place}
    {around : List Bool} (hplace : place = .name ∨ place = .firstName) :
    Position.Gives ⟨place, around⟩ (renderMember member) [.leaf (.text field.1), field.2]
      ⟨.afterValue, around⟩ := by
  obtain ⟨name, value⟩ := member
  obtain ⟨_, node⟩ := field
  cases hname
  obtain ⟨pieces, hreads, hmake⟩ := hvalue .value around (.inl rfl)
  have hstart : Position.step? ⟨place, around⟩ (.leaf (.text name)) =
      some (some (.leaf (.text name)), ⟨.colon, around⟩) :=
    Position.step?_of_startName? hplace rfl
  have hfirst : Position.Gives ⟨place, around⟩ (renderText name) [.leaf (.text name)]
      ⟨.colon, around⟩ :=
    ⟨_, .single (writtenAs_renderText name) hstart, (Node.MakeUp.leaf _).within⟩
  have hcolon : Position.Gives ⟨.colon, around⟩ [':'] [] ⟨.value, around⟩ :=
    .mark (writtenAs_mark rfl fun _ => rfl) rfl
  exact (hfirst.append hcolon).append ⟨pieces, hreads, hmake.within⟩

/-- An object is read as the record of its names and what its values are read as. -/
theorem readAs_object {members : List (String × Json)} {fields : List (String × Node Leaf)}
    (h : List.Forall₂ (fun member field => member.1 = field.1 ∧ ReadAs member.2 field.2)
      members fields) :
    ReadAs (.object members) (.record (memberNodes fields)) := by
  intro place around hplace
  have hmembers : List.Forall₂ (fun cs part => ∀ place, place = .name ∨ place = .firstName →
      Position.Gives ⟨place, true :: around⟩ cs part ⟨.afterValue, true :: around⟩)
      (members.map renderMember) (fields.map fun (name, value) => [.leaf (.text name), value]) := by
    rw [List.forall₂_map_left_iff, List.forall₂_map_right_iff]
    exact h.imp fun member field hmember place hplace =>
      gives_renderMember hmember.1 hmember.2 hplace
  obtain ⟨last, hlast, pieces, hreads, hadd⟩ :=
    Position.gives_contents rfl (.inl rfl) (.inr rfl) hmembers
  rw [← renderMembers_eq] at hreads
  have hbegin : Token.beginObject.WrittenAs ['\x7b'] := writtenAs_mark rfl fun _ => rfl
  have hopen :
      Position.Reads ⟨place, around⟩ ['\x7b'] [.openRecord] ⟨.firstName, true :: around⟩ :=
    .single hbegin (Position.step?_of_startValue? hplace rfl)
  have hclose : Position.step? ⟨last, true :: around⟩ .endObject =
      some (some .closeRecord, ⟨.afterValue, around⟩) := by
    rcases hlast with rfl | rfl <;> rfl
  have hend : Token.endObject.WrittenAs ['\x7d'] := writtenAs_mark rfl fun _ => rfl
  refine ⟨_, ?_, hadd.record⟩
  rw [render]
  exact (hopen.append hreads).append (.single hend hclose)

/-- A value that is written after spaces has an outline without faults, whose root it is read as. -/
theorem outline_append_render {value : Json} {node : Node Leaf} (h : ReadAs value node)
    {blanks : List Char} (hblanks : ∀ c ∈ blanks, isSpace c = true) :
    (outline (blanks ++ render value)).root = node ∧
      (outline (blanks ++ render value)).isWhole = true := by
  obtain ⟨pieces, hreads, hmake⟩ := h .value [] (.inl rfl)
  have hfuel : (render value).length ≤ (blanks ++ render value).length := by simp
  obtain ⟨written, htokens, hpieces⟩ := hreads.tokensWithin hfuel
  have hall : tokens (blanks ++ render value) = (written, true) := by
    rw [tokens, tokensWithin_append_of_isSpace hblanks (Nat.le_refl _), htokens]
  have houtline : outline (blanks ++ render value) = ⟨pieces, true⟩ := by
    rw [outline, hall]
    simp only [Position.start, hpieces]
    rfl
  rw [houtline]
  have hroot := hmake.alone []
  rw [List.append_nil] at hroot
  exact ⟨hroot, rfl⟩

/-! ### Texts and lists of texts -/

theorem readAs_texts (items : List String) :
    ReadAs (.array (items.map .text)) (.list (items.map fun s => .leaf (.text s))) := by
  refine readAs_array ?_
  rw [List.forall₂_map_left_iff, List.forall₂_map_right_iff, List.forall₂_same]
  exact fun s _ => readAs_text s

theorem text_eq_ok_iff {node : Node Leaf} {s : String} :
    reading.text node = .ok s ↔ node = .leaf (.text s) := by
  cases node with
  | leaf value => cases value <;> simp [Reading.text, Reading.resolve, reading]
  | _ => simp [Reading.text, Reading.resolve]

theorem texts_eq_ok_iff {node : Node Leaf} {items : List String} :
    reading.texts node = .ok items ↔ node = .list (items.map fun s => .leaf (.text s)) := by
  cases node with
  | leaf value => simp [Reading.texts, Reading.resolve, reading]
  | list nodes =>
      change nodes.mapM reading.text = .ok items ↔ _
      simp only [InOrder.mapM_eq_ok_iff, text_eq_ok_iff, Node.list.injEq]
      rw [← List.forall₂_eq_eq_eq, List.forall₂_map_right_iff]
  | _ => simp [Reading.texts, Reading.resolve]

/-- Of the lists of texts that may be left open, only `null` stands for none. -/
theorem optional_texts_eq_ok_iff {node : Node Leaf} {items : Option (List String)} :
    reading.optional reading.texts node = .ok items ↔
      node = .leaf .null ∧ items = none ∨
        ∃ texts, node = .list (texts.map fun s => .leaf (.text s)) ∧ items = some texts := by
  have hgiven : some <$> reading.texts node = .ok items ↔
      ∃ texts, node = .list (texts.map fun s => .leaf (.text s)) ∧ items = some texts := by
    simp only [← texts_eq_ok_iff]
    cases reading.texts node <;> simp [Functor.map, Except.map, eq_comm]
  cases node with
  | leaf value =>
      cases value with
      | null =>
          change Except.ok none = Except.ok items ↔ _
          simp [eq_comm]
      | _ =>
          change some <$> reading.texts _ = .ok items ↔ _
          simpa using hgiven
  | list nodes =>
      change some <$> reading.texts (.list nodes) = .ok items ↔ _
      simpa using hgiven
  | record nodes =>
      change some <$> reading.texts (.record nodes) = .ok items ↔ _
      simpa using hgiven
  | cut => simp [Reading.optional, Reading.resolve]

theorem text_leaf (s : String) : reading.text (.leaf (.text s)) = .ok s := rfl

theorem optional_text_leaf (s : String) :
    reading.optional reading.text (.leaf (.text s)) = .ok (some s) := rfl

theorem optional_texts_list (items : List String) :
    reading.optional reading.texts (.list (items.map fun s => .leaf (.text s))) =
      .ok (some items) :=
  optional_texts_eq_ok_iff.2 (.inr ⟨items, rfl, rfl⟩)

/-- The members of a record are read one after the other. -/
theorem eachField_memberNodes {β : Type} (step : β → String → Node Leaf → Except Fault β)
    (fields : List (String × Node Leaf)) (state : β) :
    reading.eachField step state (memberNodes fields) =
      fields.foldlM (fun state field => step state field.1 field.2) state := by
  induction fields generalizing state with
  | nil => rfl
  | cons field fields ih =>
      rw [List.foldlM_cons, ← funext fun state => ih state]
      rfl

end Json

end GridMachine
