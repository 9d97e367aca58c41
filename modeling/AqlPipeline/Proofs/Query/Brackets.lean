import AqlPipeline.Expr.Build
import AqlPipeline.Proofs.Expr.Abides
import AqlPipeline.Proofs.Query.Compile
import AqlPipeline.Proofs.Query.Finish
import AqlPipeline.Proofs.Writer.Brackets

/-!
# Brackets of queries

The brackets of a compact query match if those of the names and values of the pipeline do.  Numbers
of rows that are put into a limit bring none, and neither do the head and the end of the query.
-/

namespace AqlPipeline

open Text (Balanced Bracketless isBracket)

/-! ## Finished queries -/

theorem Text.filter_insertedBehind {token inserted : List Char} (plain : Bracketless inserted)
    (text : List Char) :
    (insertedBehind token inserted text).filter isBracket = text.filter isBracket := by
  rw [insertedBehind]
  split
  · rename_i before after found
    rw [eq_append_of_splitBehind? found]
    simp only [List.filter_append, plain.filter_eq_nil, List.nil_append]
  · rfl

namespace Writer

theorem filter_foldl_patchedText (counts : List Int) (text : List Char) :
    (counts.foldl patchedText text).filter isBracket = text.filter isBracket := by
  induction counts generalizing text with
  | nil => rfl
  | cons count counts ih =>
      have plain : Bracketless (toString count ++ ", ").toList := by
        rw [String.toList_append]
        exact (bracketless_toString count).append (by decide)
      rw [List.foldl_cons, ih, patchedText, Text.filter_insertedBehind plain]

theorem owes_start {settings : Settings} (compact : settings.pretty = false)
    (collections : ∀ name ∈ settings.collection, Balanced name)
    (iterators : Balanced settings.defaultIterator) : Owes [] (.start settings) where
  compact := compact
  names := ⟨collections, nofun, iterators, BindTable.balanced_paddedSuffix⟩
  text := rfl

/-- A body with nothing due at its end makes a query whose brackets match. -/
theorem Owes.balanced_finish {writer : Writer} (owes : Owes [] writer) :
    Balanced writer.finish.text := by
  have names := owes.names
  have body : Balanced (.ofList (writer.skips.foldl patchedText writer.output.text.toList)) := by
    have written : Balanced writer.output.text := Text.nests_iff.mpr owes.text
    refine written.congr ?_
    rw [String.toList_ofList, filter_foldl_patchedText]
  have head : Balanced writer.header := by
    have collection : Balanced (writer.facts.collection.getD "") := by
      cases known : writer.facts.collection with
      | none => exact .nil
      | some name => exact names.collection name known
    have opening : Balanced "FOR " := by decide
    have between : Balanced " IN " := by decide
    exact ((opening.append names.balanced_iterator).append between).append collection
  have foot : Balanced writer.footer := by
    rw [footer]
    split
    · exact .nil
    · have returns : Balanced "\nRETURN " := by decide
      exact returns.append names.balanced_iterator
  rw [finish_text]
  exact (head.append body).append foot

end Writer

/-- The dialect of queries with any source of values, if the names that the source gives have
brackets that match. -/
theorem Dialect.abidesBy_matching
    {resolve : Option Expr → Member → TypeRef → Except Error Reference}
    (references : ∀ owner member type reference, Balanced member.name →
      resolve owner member type = .ok reference → Balanced reference.name)
    (errors : ∀ owner member type thing, Balanced member.name →
      resolve owner member type = .error (.notSupported thing) → Balanced thing) :
    { Dialect.aql with resolve }.AbidesBy Script.Rules.matching where
  literal value type accepts := by
    intro brackets
    change Balanced (spellLiteral value type)
    rw [spellLiteral]
    split
    · exact .nil
    · exact value.balanced_compact fun text member => accepts text member brackets
  typeName type accepts brackets := TypeRef.balanced_spelling (accepts brackets)
  reference owner member type reference accepts found _ :=
    references owner member type reference (accepts trivial) found
  error owner member type error accepts failed thing same :=
    errors owner member type thing (accepts trivial) (failed.trans (congrArg _ same))

theorem Dialect.resolveCaptured_balanced (owner : Option Expr) (member : Member) (type : TypeRef)
    (reference : Reference) (balanced : Balanced member.name)
    (found : resolveCaptured owner member type = .ok reference) : Balanced reference.name := by
  unfold resolveCaptured at found
  split at found
  · cases found
    exact balanced
  · cases found

theorem Dialect.resolveCaptured_supported (owner : Option Expr) (member : Member) (type : TypeRef)
    (thing : String) (_ : Balanced member.name)
    (failed : resolveCaptured owner member type = .error (.notSupported thing)) :
    Balanced thing := by
  unfold resolveCaptured at failed
  split at failed <;> cases failed

/-- The brackets of a compact query match, whatever has been replaced by markers and whatever has
been put into its limit, if they match in each name, type name and text of a value by itself.  They
do in all texts without brackets, and in format strings with brackets only around their items. -/
theorem query_brackets_match
    (resolve : Option Expr → Member → TypeRef → Except Error Reference)
    (settings : Settings) (expr : Expr) (query : Query)
    (references : ∀ owner member type reference, Balanced member.name →
      resolve owner member type = .ok reference → Balanced reference.name)
    (errors : ∀ owner member type thing, Balanced member.name →
      resolve owner member type = .error (.notSupported thing) → Balanced thing)
    (compact : settings.pretty = false)
    (collections : ∀ name ∈ settings.collection, Balanced name)
    (iterators : Balanced settings.defaultIterator)
    (texts : ∀ node ∈ expr.nodes, ∀ text ∈ node.texts, Balanced text)
    (compiled : Query.compile { Dialect.aql with resolve } settings expr = .ok query) :
    Balanced query.text := by
  have abides := Dialect.abidesBy_matching references errors
  have neutral := (expr.script_neutral abides (fun node member text written _ =>
    texts node member text written) {}).enter "" []
  have ended := Writer.run_endsOwing neutral (Writer.owes_start compact collections iterators)
  obtain ⟨last, ran, rfl⟩ := Query.run_of_compile compiled
  rw [ran] at ended
  exact ended.balanced_finish

/-- The second page of accounts, each with a label that has an item which there is no AQL for. -/
def Expr.labelledPage : Expr :=
  let account : Parameter := ⟨"account", .named "Account"⟩
  let balance : Expr := .memberOf (.parameter account) "Balance" (.number "Decimal")
  let deletion : Expr := .late (.deleteMember "Owner") [.parameter account] .object
  let format : Expr := .stringConstant "\x7b0:N2\x7d of \x7b1\x7d"
  let label : Expr := .staticCall .string "Format"
    [format, balance, .applied .negate deletion .object] .string
  let labels : Expr := .function [account] (.anonymousObject [("Label", label)])
  .countStage "Take" (.countStage "Skip" (.stage "Select" (.source account.type) labels) 5) 5

/-- The item is cut out from between the brackets around it. -/
theorem query_brackets_match_labelledPage :
    (∀ node ∈ Expr.labelledPage.nodes, ∀ text ∈ node.texts, Balanced text) ∧
      ∃ query, Query.compile .aql {} Expr.labelledPage = .ok query ∧
        query.text = "FOR account IN Account\nRETURN \x7bLabel = $\"" ++
          "\x7baccount.Balance:N2\x7d of " ++
          "\x7b-\n// NOT IMPLEMENTED: deleting the member 'Owner'\n\x7d\"\x7d\nLIMIT 5, 5" ∧
        Balanced query.text := by
  have texts : ∀ node ∈ Expr.labelledPage.nodes, ∀ text ∈ node.texts, Balanced text := by
    decide
  set_option maxRecDepth 2000 in
  refine ⟨texts, _, rfl, by decide +kernel, ?_⟩
  exact query_brackets_match Dialect.resolveCaptured {} Expr.labelledPage _
    Dialect.resolveCaptured_balanced Dialect.resolveCaptured_supported rfl nofun (by decide) texts
    rfl

end AqlPipeline
