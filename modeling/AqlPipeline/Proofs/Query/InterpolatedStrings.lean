import AqlPipeline.Expr.Build
import AqlPipeline.Proofs.FormatString.Brackets
import AqlPipeline.Proofs.FormatString.Parsing
import AqlPipeline.Proofs.Writer.Front
import AqlPipeline.Query

/-!
# Quotes of interpolated strings

A constant format string that is filled in becomes an interpolated string.  Braces of its literals
are doubled, but quotes and backslashes stay as they are.  So the closing quote is the first one
that is not escaped exactly if all quotes of the literals are escaped in the format string itself,
and no backslash at the end of the last literal is left to escape the closing quote.
-/

namespace AqlPipeline

namespace Interpolation

/-! ## Quotes -/

/-- Whether the character behind some text is escaped, given whether the first one of the text is;
nothing if the text has a double quote that is not escaped.  A backslash that is not escaped itself
escapes the character behind it. -/
def escapedBehind? (escaped : Bool) : List Char → Option Bool
  | [] => some escaped
  | char :: chars =>
    if escaped then escapedBehind? false chars
    else if char = '\x22' then none
    else escapedBehind? (char == '\\') chars

/-- The characters of literal text of an interpolated string. -/
def literal (chars : List Char) : List (Char × Bool) :=
  chars.map (·, false)

/-- The characters of a hole, with its braces. -/
def hole (chars : List Char) : List (Char × Bool) :=
  chars.map (·, true)

@[simp] theorem map_fst_literal (chars : List Char) : (literal chars).map Prod.fst = chars := by
  rw [literal, List.map_map]
  exact List.map_id chars

@[simp] theorem map_fst_hole (chars : List Char) : (hole chars).map Prod.fst = chars := by
  rw [hole, List.map_map]
  exact List.map_id chars

@[simp] theorem length_literal (chars : List Char) : (literal chars).length = chars.length :=
  List.length_map ..

@[simp] theorem length_hole (chars : List Char) : (hole chars).length = chars.length :=
  List.length_map ..

/-- The number of characters in front of the first double quote that is in no hole and not escaped;
`escaped` tells whether the first character is. -/
def quoteAt? (escaped : Bool) : List (Char × Bool) → Option Nat
  | [] => none
  | (char, inHole) :: rest =>
    if inHole || escaped then (quoteAt? false rest).map (· + 1)
    else if char = '\x22' then some 0
    else (quoteAt? (char == '\\') rest).map (· + 1)

/-- Literal text is passed over, or has the first quote itself. -/
theorem quoteAt?_literal (escaped : Bool) (chars : List Char) (rest : List (Char × Bool)) :
    (∃ next, escapedBehind? escaped chars = some next ∧
      quoteAt? escaped (literal chars ++ rest) = (quoteAt? next rest).map (· + chars.length)) ∨
    (escapedBehind? escaped chars = none ∧
      ∃ place < chars.length, quoteAt? escaped (literal chars ++ rest) = some place) := by
  induction chars generalizing escaped with
  | nil => exact .inl ⟨escaped, rfl, by simp [literal]⟩
  | cons char chars ih =>
      obtain ⟨rfl, rfl⟩ | ⟨next, read_eq, found_eq⟩ : (escaped = false ∧ char = '\x22') ∨
          ∃ next, escapedBehind? escaped (char :: chars) = escapedBehind? next chars ∧
            quoteAt? escaped (literal (char :: chars) ++ rest) =
              (quoteAt? next (literal chars ++ rest)).map (· + 1) := by
        cases escaped with
        | true => exact .inr ⟨false, rfl, rfl⟩
        | false =>
            by_cases quote : char = '\x22'
            · exact .inl ⟨rfl, quote⟩
            · exact .inr ⟨char == '\\', by simp [escapedBehind?, quote],
                by simp [literal, quoteAt?, quote]⟩
      · exact .inr ⟨rfl, 0, Nat.zero_lt_succ _, rfl⟩
      · rw [read_eq, found_eq]
        rcases ih next with ⟨last, read, found⟩ | ⟨quoted, place, inside, found⟩
        · exact .inl ⟨last, read, by rw [found, Option.map_map]; rfl⟩
        · exact .inr ⟨quoted, place + 1, Nat.succ_lt_succ inside, by rw [found]; rfl⟩

/-- Where literal text comes first, the first quote is behind it exactly if it has none itself. -/
theorem quoteAt?_literal_iff (chars : List Char) (rest : List (Char × Bool)) (place : Nat) :
    quoteAt? false (literal chars ++ rest) = some (chars.length + place) ↔
      ∃ next, escapedBehind? false chars = some next ∧ quoteAt? next rest = some place := by
  rcases quoteAt?_literal false chars rest with ⟨next, read, found⟩ | ⟨quoted, early, inside, found⟩
  · simp only [found, read, Option.map_eq_some_iff, Option.some_inj]
    constructor
    · rintro ⟨other, found, same⟩
      obtain rfl : other = place := by omega
      exact ⟨next, rfl, found⟩
    · rintro ⟨_, rfl, found⟩
      exact ⟨place, found, Nat.add_comm ..⟩
  · rw [found, quoted, Option.some_inj]
    constructor
    · omega
    · rintro ⟨next, ⟨⟩, -⟩

/-- A hole is passed over, and what is behind it is not escaped. -/
theorem quoteAt?_hole (escaped : Bool) (char : Char) (chars : List Char)
    (rest : List (Char × Bool)) :
    quoteAt? escaped (hole (char :: chars) ++ rest) =
      (quoteAt? false rest).map (· + (chars.length + 1)) := by
  induction chars generalizing escaped char with
  | nil => rfl
  | cons next chars ih =>
      change (quoteAt? false (hole (next :: chars) ++ rest)).map (· + 1) = _
      rw [ih, Option.map_map]
      rfl

theorem quoteAt?_hole_iff (escaped : Bool) (char : Char) (chars : List Char)
    (rest : List (Char × Bool)) (place : Nat) :
    quoteAt? escaped (hole (char :: chars) ++ rest) = some (chars.length + 1 + place) ↔
      quoteAt? false rest = some place := by
  rw [quoteAt?_hole, Option.map_eq_some_iff]
  constructor
  · rintro ⟨other, found, same⟩
    obtain rfl : other = place := by omega
    exact found
  · intro found
    exact ⟨place, found, Nat.add_comm ..⟩

/-- Doubled braces do not matter to quotes. -/
theorem escapedBehind?_doubledBraces (escaped : Bool) (text : String) :
    escapedBehind? escaped (Render.doubledBraces text).toList =
      escapedBehind? escaped text.toList := by
  rw [FormatString.toList_doubledBraces]
  induction text.toList generalizing escaped with
  | nil => rfl
  | cons char chars ih =>
      rw [← List.singleton_append, FormatString.escaped_append]
      by_cases brace : char = '\x7b' ∨ char = '\x7d'
      · rw [FormatString.escaped_brace brace]
        obtain rfl | rfl := brace <;> cases escaped <;> simp [escapedBehind?, ih]
      · obtain ⟨opening, closing⟩ := not_or.mp brace
        rw [FormatString.escaped_plain opening closing]
        simp [escapedBehind?, ih]

/-- Without backslashes, no quote is escaped. -/
theorem escapedBehind?_eq_some_iff {chars : List Char} (unescaped : '\\' ∉ chars) {next : Bool} :
    escapedBehind? false chars = some next ↔ '\x22' ∉ chars ∧ next = false := by
  induction chars with
  | nil => simp [escapedBehind?, eq_comm]
  | cons char chars ih =>
      simp only [List.mem_cons, not_or] at unescaped ⊢
      have plain : (char == '\\') = false := beq_eq_false_iff_ne.mpr (Ne.symm unescaped.1)
      rw [escapedBehind?, if_neg Bool.false_ne_true, plain]
      split
      · simp_all
      · rename_i other
        rw [ih unescaped.2, and_assoc]
        simp [Ne.symm other]

/-! ## Filled format strings -/

/-- The characters of an interpolated string between its quotes: each literal with its braces
doubled, and in place of each item a hole with some text and the details of the item. -/
inductive Fills : List FormatString.Segment → List (Char × Bool) → Prop where
  | nil : Fills [] []
  | last (text : String) :
      Fills [⟨text, none⟩] (literal (Render.doubledBraces text).toList)
  | item (text : String) (placeholder : FormatString.Placeholder) (filling : String)
      {segments : List FormatString.Segment} {chars : List (Char × Bool)}
      (others : Fills segments chars) :
      Fills (⟨text, some placeholder⟩ :: segments)
        (literal (Render.doubledBraces text).toList ++
          (hole ('\x7b' :: (filling ++ placeholder.details ++ "\x7d").toList) ++ chars))

/-- Whether every quote of the literals is escaped by the literals themselves, and the end of the
last literal does not escape what is behind it. -/
def Delimits (segments : List FormatString.Segment) : Prop :=
  ∀ segment ∈ segments, ∃ escaped, escapedBehind? false segment.literal.toList = some escaped ∧
    (segment.placeholder = none → escaped = false)

theorem Fills.quoteAt?_iff {segments : List FormatString.Segment} {chars : List (Char × Bool)}
    (fills : Fills segments chars) :
    quoteAt? false (chars ++ [('\x22', false)]) = some chars.length ↔ Delimits segments := by
  induction fills with
  | nil => simp [quoteAt?, Delimits]
  | last text =>
      have behind : ∀ next, quoteAt? next [('\x22', false)] = some 0 ↔ next = false := by decide
      rw [length_literal, ← Nat.add_zero (List.length _), quoteAt?_literal_iff,
        escapedBehind?_doubledBraces]
      simp [Delimits, behind]
  | item text placeholder filling others ih =>
      rw [List.append_assoc, List.append_assoc, List.length_append, List.length_append,
        length_literal, length_hole, List.length_cons, quoteAt?_literal_iff,
        escapedBehind?_doubledBraces, Delimits, List.forall_mem_cons, ← Delimits]
      simp only [quoteAt?_hole_iff, ih, reduceCtorEq, false_implies, and_true, exists_and_right]

/-! ## Format strings -/

/-- An item is written as a hole.  Whatever the argument that fills it in does, the brace in front
of it stays. -/
theorem text_of_formatItem {placeholder : FormatString.Placeholder} {items : List Script}
    {before after : Writer}
    (finished : Writer.run (Render.formatItem placeholder items) before = .finished after) :
    ∃ filling, after.output.text =
      before.output.text ++ ("\x7b" ++ (filling ++ placeholder.details ++ "\x7d")) := by
  unfold Render.formatItem at finished
  split at finished
  · cases finished
  · rename_i item _
    obtain ⟨inside, opened, closed⟩ := Writer.finished_of_append finished
    cases closed
    change Writer.run item (before.append "\x7b") = .finished inside at opened
    have tight : Text.EndsWithin 0 (before.append "\x7b").output.text :=
      Text.EndsWithin.append (by decide) _
    obtain ⟨filling, kept⟩ := Writer.Keeps.run tight item (.refl _)
    rw [opened] at kept
    change inside.output.text = before.output.text ++ "\x7b" ++ filling at kept
    refine ⟨filling, ?_⟩
    change inside.output.text ++ (placeholder.details ++ "\x7d") = _
    rw [kept]
    simp only [String.append_assoc]

/-- The segments of a format string are written as what fills them in. -/
theorem fills_of_formatSegments {items : List Script} {segments : List FormatString.Segment}
    (filled : ∀ segment ∈ segments.dropLast, segment.placeholder.isSome) {before after : Writer}
    (finished : Writer.run (Render.formatSegments items segments) before = .finished after) :
    ∃ chars, Fills segments chars ∧
      after.output.text = before.output.text ++ String.ofList (chars.map Prod.fst) := by
  induction segments generalizing before with
  | nil =>
      cases finished
      exact ⟨[], .nil, by simp⟩
  | cons segment segments ih =>
      obtain ⟨text, _ | placeholder⟩ := segment
      · obtain rfl : segments = [] := by
          cases segments with
          | nil => rfl
          | cons next segments => simp at filled
        cases finished
        exact ⟨_, .last text, by rw [map_fst_literal, String.ofList_toList]; rfl⟩
      · rw [Render.formatSegments] at finished
        obtain ⟨closed, item_finished, rest_finished⟩ := Writer.finished_of_append finished
        obtain ⟨opened, opened_eq, item_finished⟩ := Writer.finished_of_append item_finished
        cases opened_eq
        obtain ⟨filling, closed_eq⟩ := text_of_formatItem item_finished
        have others : ∀ segment ∈ segments.dropLast, segment.placeholder.isSome := by
          cases segments with
          | nil => simp
          | cons next segments => exact (List.forall_mem_cons.mp filled).2
        obtain ⟨chars, fills, text_eq⟩ := ih others rest_finished
        refine ⟨_, .item text placeholder filling fills, ?_⟩
        rw [text_eq, closed_eq]
        change before.output.text ++ Render.doubledBraces text ++ _ ++ _ = _
        apply String.toList_inj.mp
        simp [List.append_assoc]

end Interpolation

open Interpolation

/-- A method that fills in a constant format string is written as an interpolated string. -/
theorem Expr.script_interpolated {method : Method} (fills : method.isStringFormat = true)
    (unindexed : method.isIndexer = false) (dialect : Dialect) (target : Option Expr)
    (format : String) (constantType : TypeRef) (others : List Expr) (type : TypeRef)
    (placement : Placement) :
    ∃ items, (call target method (.constant (.string format) constantType :: others) type).script
      dialect placement = Render.interpolated format items := by
  obtain ⟨owner, named⟩ : method.declaringType.name = "String" ∧ method.name = "Format" := by
    simpa [Method.isStringFormat] using fills
  have unjoined : method.isStringConcat = false := by
    simp [Method.isStringConcat, named]
  have unread : Render.isElementRead (optionalPart dialect target) method = false := by
    simp [Render.isElementRead, unindexed, named]
  rw [Expr.script, Render.call, unjoined, if_neg Bool.false_ne_true]
  unfold Render.otherCall
  rw [unread, if_neg Bool.false_ne_true, if_pos fills, parts]
  exact ⟨_, rfl⟩

/-- Filling in a constant format string writes, between quotes, its literals with only their braces
doubled, and holes.  The closing quote is the first quote outside of the holes that is not escaped
exactly if every quote of a literal has a backslash of the format string in front of it, and a
literal at the end does not end with a backslash.  Without any backslashes, that is if no literal
has a quote. -/
theorem interpolated_string_delimited_iff {method : Method} (fills : method.isStringFormat = true)
    (unindexed : method.isIndexer = false) {dialect : Dialect} {target : Option Expr}
    {format : String} {constantType : TypeRef} {others : List Expr} {type : TypeRef}
    {placement : Placement} {segments : List FormatString.Segment} {before after : Writer}
    (parsed : FormatString.parse format = .ok segments)
    (finished : Writer.run ((Expr.call target method
      (.constant (.string format) constantType :: others) type).script dialect placement) before =
        .finished after) :
    ∃ chars, Fills segments chars ∧
      after.output.text =
        before.output.text ++ "$\"" ++ String.ofList (chars.map Prod.fst) ++ "\"" ∧
      (quoteAt? false (chars ++ [('\x22', false)]) = some chars.length ↔ Delimits segments) ∧
      ((∀ segment ∈ segments, '\\' ∉ segment.literal.toList) →
        (quoteAt? false (chars ++ [('\x22', false)]) = some chars.length ↔
          ∀ segment ∈ segments, '\x22' ∉ segment.literal.toList)) := by
  obtain ⟨items, script_eq⟩ := Expr.script_interpolated fills unindexed dialect target format
    constantType others type placement
  rw [script_eq, Render.interpolated, parsed] at finished
  obtain ⟨inside, opened, closed⟩ := Writer.finished_of_append finished
  obtain ⟨quoted, quoted_eq, written⟩ := Writer.finished_of_append opened
  cases quoted_eq
  cases closed
  have canonical := (FormatString.parse_eq_ok_iff.mp parsed).1
  obtain ⟨chars, fills, text_eq⟩ := fills_of_formatSegments canonical.2.1 written
  refine ⟨chars, fills, congrArg (· ++ "\"") text_eq, fills.quoteAt?_iff, ?_⟩
  intro unescaped
  rw [fills.quoteAt?_iff]
  refine forall₂_congr fun segment member => ?_
  simp [escapedBehind?_eq_some_iff (unescaped segment member)]

/-- A salutation of a user, by a format string. -/
def Expr.salutation (format : String) : Expr :=
  .staticCall .string "Format"
    [.stringConstant format, .memberOf (.parameter ⟨"x", .named "User"⟩) "Name" .string] .string

/-- Quotes that the format string escapes stay escaped. -/
theorem interpolated_string_delimited_iff_escaped :
    ∃ after chars,
      Writer.run ((Expr.salutation "Hi \\\"\x7b0\x7d\\\"").script .aql {}) (.start {}) =
        .finished after ∧
      after.output.text = "" ++ "$\"" ++ String.ofList (chars.map Prod.fst) ++ "\"" ∧
      quoteAt? false (chars ++ [('\x22', false)]) = some chars.length := by
  have parsed : FormatString.parse "Hi \\\"\x7b0\x7d\\\"" =
      .ok [⟨"Hi \\\"", some ⟨0, none, none⟩⟩, ⟨"\\\"", none⟩] := rfl
  obtain ⟨after, finished⟩ : ∃ after,
      Writer.run ((Expr.salutation "Hi \\\"\x7b0\x7d\\\"").script .aql {}) (.start {}) =
        .finished after := ⟨_, rfl⟩
  obtain ⟨chars, -, text_eq, delimited_iff, -⟩ :=
    interpolated_string_delimited_iff rfl rfl parsed finished
  refine ⟨after, chars, finished, text_eq, delimited_iff.mpr ?_⟩
  simp [Delimits, escapedBehind?]

/-- Other quotes of a format string end the interpolated string where they stand. -/
theorem salutation_ends_early :
    ∃ query segments chars, Query.compile .aql {}
        (.stage "Select" (.source (.named "User"))
          (.function [⟨"x", .named "User"⟩] (.salutation "Hi \"\x7b0\x7d\""))) = .ok query ∧
      FormatString.parse "Hi \"\x7b0\x7d\"" = .ok segments ∧ Fills segments chars ∧
      query.text =
        "FOR x IN User\nRETURN $\"" ++ String.ofList (chars.map Prod.fst) ++ "\"" ∧
      quoteAt? false (chars ++ [('\x22', false)]) = some 3 ∧ chars.length = 13 :=
  ⟨_, _, _, rfl, rfl, .item "Hi \"" ⟨0, none, none⟩ "x.Name" (.last "\""), rfl, rfl,
    rfl⟩

end AqlPipeline
