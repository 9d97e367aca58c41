import AqlPipeline.Proofs.BindTable.Fresh
import AqlPipeline.Proofs.Query.CallVisits
import Mathlib.Data.List.Infix

/-!
# Patterns for beginnings

A test for a beginning that is known before the query runs binds a pattern: the beginning without
its double quotes, and a percent sign.  If no other character of it has a meaning of its own in
patterns, the pattern fits exactly the texts with that beginning.
-/

namespace AqlPipeline

/-! ## Patterns -/

namespace Like

/-- Whether a character has a meaning of its own in a pattern. -/
def isSpecial (char : Char) : Bool :=
  char == '%' || char == '_' || char == '\\'

/-- Whether a pattern fits a text.  A percent sign stands for any characters, an underscore for any
one, and a backslash makes the character behind it stand for itself, as all others do. -/
def fits : (pattern text : List Char) → Bool
  | [], text => text.isEmpty
  | '%' :: pattern, text => text.tails.any fun rest => fits pattern rest
  | '_' :: pattern, text =>
    match text with
    | [] => false
    | _ :: text => fits pattern text
  | '\\' :: escaped :: pattern, text =>
    match text with
    | [] => false
    | char :: text => escaped == char && fits pattern text
  | wanted :: pattern, text =>
    match text with
    | [] => false
    | char :: text => wanted == char && fits pattern text

theorem fits_plain_nil {wanted : Char} (plain : isSpecial wanted = false) (pattern : List Char) :
    fits (wanted :: pattern) [] = false := by
  simp only [isSpecial, Bool.or_eq_false_iff, beq_eq_false_iff_ne] at plain
  rw [fits] <;> simp_all

theorem fits_plain_cons {wanted : Char} (plain : isSpecial wanted = false) (pattern : List Char)
    (char : Char) (text : List Char) :
    fits (wanted :: pattern) (char :: text) = (wanted == char && fits pattern text) := by
  simp only [isSpecial, Bool.or_eq_false_iff, beq_eq_false_iff_ne] at plain
  rw [fits] <;> simp_all

/-- A percent sign fits every text. -/
theorem fits_percent (text : List Char) : fits ['%'] text = true := by
  rw [fits, List.any_eq_true]
  exact ⟨[], by simp, rfl⟩

/-- Plain characters in front of a percent sign fit the texts that begin with them. -/
theorem fits_beginning {beginning : List Char} (plain : ∀ char ∈ beginning, isSpecial char = false)
    (text : List Char) : fits (beginning ++ ['%']) text = true ↔ beginning <+: text := by
  induction beginning generalizing text with
  | nil => simp [fits_percent]
  | cons wanted beginning ih =>
      obtain ⟨own, others⟩ := List.forall_mem_cons.mp plain
      rw [List.cons_append]
      cases text with
      | nil => simp [fits_plain_nil own]
      | cons char text =>
          rw [fits_plain_cons own, Bool.and_eq_true, beq_iff_eq, ih others, List.cons_prefix_cons]

end Like

/-- The characters of a text but its double quotes. -/
def Text.unquoted (text : String) : List Char :=
  text.toList.filter (· != '\x22')

namespace Render

theorem likePattern_fits {beginning : String}
    (plain : ∀ char ∈ beginning.toList, Like.isSpecial char = false) (text : String) :
    Like.fits (likePattern (.string beginning)).toList text.toList = true ↔
      Text.unquoted beginning <+: text.toList := by
  have pattern_eq : (likePattern (.string beginning)).toList =
      Text.unquoted beginning ++ ['%'] := by
    change (String.ofList (Text.unquoted beginning) ++ "%").toList = _
    rw [String.toList_append, String.toList_ofList]
    rfl
  rw [pattern_eq]
  exact Like.fits_beginning (fun char member => plain char (List.mem_filter.mp member).1) _

end Render

/-! ## Tests for a beginning -/

namespace Expr

/-- What the clause of a call stands behind, and the arguments that are left for the clause: the
target, the first argument of an extension method, or the type of another method. -/
inductive Receives (dialect : Dialect) (method : Method) :
    Option Expr → List Expr → Script → List Expr → Prop where
  | target (target : Expr) (arguments : List Expr) :
      Receives dialect method (some target) arguments
        (.enter "Object" (target.script dialect {})) arguments
  | first (extended : method.kind = .extension) (first : Expr) (others : List Expr) :
      Receives dialect method none (first :: others)
        (.enter (Script.numbered "Arguments" 0) (first.script dialect {})) others
  | type (held : method.kind ≠ .extension) (arguments : List Expr) :
      Receives dialect method none arguments
        (.write (dialect.typeName method.declaringType)) arguments

variable {dialect : Dialect} {target : Option Expr} {method : Method}
  {arguments left : List Expr} {front : Script}

theorem Receives.script_startsWith (receives : Receives dialect method target arguments front left)
    (named : Stage.ofName? method.name = some .startsWith) (unindexed : method.isIndexer = false)
    (type : TypeRef) (placement : Placement) :
    (call target method arguments type).script dialect placement =
      front ++ Render.likeClause (parts dialect left) := by
  have other : method.name ≠ "Get" := ne_name_of_stage named (by decide)
  have unread : Render.isElementRead (optionalPart dialect target) method = false := by
    simp [Render.isElementRead, unindexed, other]
  have clause_eq : ∀ arguments visited, Render.applied method arguments visited =
      Render.likeClause arguments := by
    intro arguments visited
    rw [Render.applied, named]
    rfl
  have received_eq : ∀ receiver arguments visited,
      Render.received method receiver arguments visited =
        receiver ++ Render.likeClause arguments := by
    intro receiver arguments visited
    rw [Render.received, named, clause_eq]
  rw [Expr.script, Render.call, not_isStringConcat_of_stage named, if_neg Bool.false_ne_true]
  unfold Render.otherCall
  rw [unread, if_neg Bool.false_ne_true, not_isStringFormat_of_stage named,
    if_neg Bool.false_ne_true]
  unfold Render.plainCall
  cases receives with
  | target target => exact received_eq ..
  | first extended first =>
      rw [extended]
      exact received_eq ..
  | type held =>
      split
      · contradiction
      · contradiction
      · exact congrArg (_ ++ ·) (clause_eq ..)

end Expr

/-- A test for a beginning that is a text known before the query runs binds a pattern behind its
receiver: the text without its double quotes, and a percent sign.  If the text has no percent sign,
underscore or backslash, the pattern fits exactly the texts that begin with it, without its double
quotes. -/
theorem beginnings_bound_as_patterns {dialect : Dialect} {target : Option Expr} {method : Method}
    {arguments others : List Expr} {front : Script} {beginning : Expr} {value : String}
    {writer received : Writer}
    (receives : Expr.Receives dialect method target arguments front (beginning :: others))
    (named : Stage.ofName? method.name = some .startsWith) (unindexed : method.isIndexer = false)
    (known : beginning.staticValue? = some (.string value))
    (ran : Writer.run front writer = .finished received) (type : TypeRef) (placement : Placement) :
    ∃ after name pattern,
      Writer.run ((Expr.call target method arguments type).script dialect placement) writer =
        .finished after ∧
      after.output.text = received.output.text ++ "\nLIKE " ++ ("@" ++ name) ∧
      after.binds.entries = received.binds.entries ++ [(name, .string pattern)] ∧
      pattern = String.ofList (Text.unquoted value) ++ "%" ∧
      ('%' ∉ value.toList → '_' ∉ value.toList → '\\' ∉ value.toList →
        ∀ text : String, Like.fits pattern.toList text.toList = true ↔
          Text.unquoted value <+: text.toList) := by
  have script_eq := receives.script_startsWith named unindexed type placement
  have clause_eq : Render.likeClause (Expr.parts dialect (beginning :: others)) =
      .write "\nLIKE " ++ .bindLiteral (.string (Render.likePattern (.string value))) := by
    simp only [Expr.parts, Render.likeClause, known]
  rw [script_eq, clause_eq, Writer.run_append, ran]
  refine ⟨_, _, Render.likePattern (.string value), rfl, rfl, ?_, rfl, ?_⟩
  · exact BindTable.register_entries ..
  · intro percents underscores backslashes
    refine Render.likePattern_fits fun char member => ?_
    simp only [Like.isSpecial, Bool.or_eq_false_iff, beq_eq_false_iff_ne]
    exact ⟨⟨ne_of_mem_of_not_mem member percents, ne_of_mem_of_not_mem member underscores⟩,
      ne_of_mem_of_not_mem member backslashes⟩

/-- The name of a user. -/
def Expr.userName : Expr :=
  memberOf (.parameter ⟨"x", .named "User"⟩) "Name" .string

/-- A test whether the name of a user begins with a text. -/
def Expr.nameBeginsWith (beginning : String) : Expr :=
  userName.instanceCall "StartsWith" [stringConstant beginning] .boolean

/-- A beginning with a double quote is tested without it. -/
theorem beginnings_bound_as_patterns_quoted :
    ∃ after name pattern,
      Writer.run ((Expr.nameBeginsWith "Al\"ice").script .aql {}) (.start {}) = .finished after ∧
      after.output.text = "x.Name" ++ "\nLIKE " ++ ("@" ++ name) ∧
      after.binds.entries = [(name, .string pattern)] ∧ pattern = "Alice%" ∧
      ∀ text : String, Like.fits pattern.toList text.toList = true ↔
        "Alice".toList <+: text.toList := by
  have known : (Expr.stringConstant "Al\"ice").staticValue? = some (.string "Al\"ice") := rfl
  have receives : Expr.Receives .aql ⟨"StartsWith", .string, .ofInstance, false⟩ (some .userName)
      [.stringConstant "Al\"ice"] (.enter "Object" (Expr.userName.script .aql {}))
      [.stringConstant "Al\"ice"] := .target ..
  obtain ⟨received, ran, text_eq, binds_eq⟩ : ∃ received,
      Writer.run (.enter "Object" (Expr.userName.script .aql {})) (.start {}) =
        .finished received ∧ received.output.text = "x.Name" ∧ received.binds.entries = [] :=
    ⟨_, rfl, rfl, rfl⟩
  obtain ⟨after, name, pattern, finished, after_text, after_binds, pattern_eq, fits_iff⟩ :=
    beginnings_bound_as_patterns receives rfl rfl known ran .boolean {}
  rw [text_eq] at after_text
  rw [binds_eq] at after_binds
  exact ⟨after, name, pattern, finished, after_text, after_binds, pattern_eq,
    fits_iff (by decide) (by decide) (by decide)⟩

/-- The users whose names begin with a text. -/
def Expr.usersNamed (beginning : String) : Expr :=
  .stage "Where" (.source (.named "User"))
    (.function [⟨"x", .named "User"⟩] (.nameBeginsWith beginning))

/-- So it fits a text that does not begin with it.  A percent sign or an underscore in a beginning
fits other characters as well, and a backslash at its end takes the meaning from the percent sign
that is put behind it. -/
theorem quoted_beginning_fits_other :
    (∃ query, Query.compile .aql {} (.usersNamed "Al\"ice") = .ok query ∧
      query.text = "FOR x IN User\nFILTER x.Name\nLIKE @p\nRETURN x" ∧
      query.binds = [("p", .string "Alice%")] ∧
      Like.fits "Alice%".toList "Alice".toList = true ∧
      ¬ "Al\"ice".toList <+: "Alice".toList) ∧
    (∃ query, Query.compile .aql {} (.usersNamed "5%") = .ok query ∧
      query.binds = [("p", .string "5%%")] ∧
      Like.fits "5%%".toList "50".toList = true ∧ ¬ "5%".toList <+: "50".toList) ∧
    (∃ query, Query.compile .aql {} (.usersNamed "a_") = .ok query ∧
      query.binds = [("p", .string "a_%")] ∧
      Like.fits "a_%".toList "ab".toList = true ∧ ¬ "a_".toList <+: "ab".toList) ∧
    ∃ query, Query.compile .aql {} (.usersNamed "C:\\") = .ok query ∧
      query.binds = [("p", .string "C:\\%")] ∧
      Like.fits "C:\\%".toList "C:\\dir".toList = false ∧
      "C:\\".toList <+: "C:\\dir".toList := by
  refine ⟨⟨_, rfl, ?_, rfl, ?_, ?_⟩, ⟨_, rfl, rfl, ?_, ?_⟩, ⟨_, rfl, rfl, ?_, ?_⟩,
    ⟨_, rfl, rfl, ?_, ?_⟩⟩ <;> decide

end AqlPipeline
