import Horoscope.CommandLine.Outcome
import Horoscope.Proofs.Bank.Ranking
import Horoscope.Proofs.Wording.RuleText

set_option autoImplicit false

namespace Horoscope

namespace Bank

theorem drawn_addressed {σ : Type} [RandomSource σ] (bank : Bank) (chart : Chart) (moment : Moment)
    (source : σ) : bank.Addresses (bank.matchingDrawn chart moment source).1 :=
  bank.placement_addressed chart moment (chart.drawPlanet source).1

def RulePerId (bank : Bank) (ids : List Nat) (today : Date) (text : Text) : Prop :=
  ∃ rows : List Row, rows.map Row.id = ids ∧ (∀ row ∈ rows, bank.row? row.id = some row) ∧
    text = Text.trimEnd (['\n'].intercalate (rows.map fun row => "Condition: ".toList ++
      wording today row.rule.condition ++ '\n' :: ("Result: ".toList ++ row.rule.result ++ ['\n'])))

theorem rule_per_id (bank : Bank) (ids : List Nat) (today : Date) (addressed : bank.Addresses ids) :
    bank.RulePerId ids today (bank.ruleText ids today) := by
  refine ⟨ids.filterMap bank.row?, bank.addressed_rows ids addressed, fun row kept => ?_, ?_⟩
  · obtain ⟨id, -, found⟩ := List.mem_filterMap.mp kept
    rw [((bank.row_some_iff id row).mp found).2]
    exact found
  · simp only [ruleText, Rule.text_lines]

end Bank

namespace CommandLine.Invocation

def ask (i : Invocation) (command : Command) : Invocation := { i with command := command }

variable (i : Invocation) (world : World) (bank : Bank) (options : ChartOptions)

theorem matched_ids_addressed (ids : List Nat) (matched : i.matchedIds world bank options = .ok ids) :
    bank.Addresses ids := by
  unfold matchedIds at matched
  cases read : (Chart.ofEntries options.birth options.placements).mapError Fault.badBirth with
  | error fault =>
      rw [read] at matched
      cases matched
  | ok chart =>
      rw [read] at matched
      cases matched
      exact bank.drawn_addressed chart _ _

theorem run_match :
    (i.ask (.matchChart options)).run world = (do
      let bank ← i.loadBank world
      let ids ← i.matchedIds world bank options
      return (writeIds ids ++ ['\n'], Chart.warnings options.placements)) := rfl

theorem run_predict (answer : Text) :
    (i.ask (.predict options answer)).run world = (do
      let bank ← i.loadBank world
      let ids ← i.matchedIds world bank options
      return (bank.ruleText (Bank.unionIds ids (bank.rankedIds answer)) (i.day world) ++ ['\n'],
        Chart.warnings options.placements)) := rfl

theorem run_assemble (ids : List Nat) :
    (i.ask (.assemble ids)).run world = (do
      let bank ← i.loadBank world
      return (bank.ruleText ids (i.day world) ++ ['\n'], [])) := rfl

theorem run_match_ok_iff (printed : Text) (warnings : List ChartWarning) :
    (i.ask (.matchChart options)).run world = .ok (printed, warnings) ↔
      ∃ bank ids, i.loadBank world = .ok bank ∧ i.matchedIds world bank options = .ok ids ∧
        printed = writeIds ids ++ ['\n'] ∧ warnings = Chart.warnings options.placements := by
  rw [run_match]
  apply Iff.intro
  · intro done
    cases loaded : i.loadBank world with
    | error fault =>
        rw [loaded] at done
        cases done
    | ok bank =>
        cases matched : i.matchedIds world bank options with
        | error fault =>
            simp only [loaded, matched, bind, Except.bind] at done
            cases done
        | ok ids =>
            simp only [loaded, matched, bind, Except.bind, pure, Except.pure] at done
            cases done
            exact ⟨bank, ids, rfl, matched, rfl, rfl⟩
  · intro form
    obtain ⟨bank, ids, loaded, matched, rfl, rfl⟩ := form
    simp only [loaded, matched, bind, Except.bind, pure, Except.pure]

theorem read_printed_ids (ids : List Nat) (addressed : bank.Addresses ids) :
    bank.rankedIds (writeIds ids ++ ['\n']) = ids := by
  have listed := Bank.listed_intercalate ", ".toList ids (List.cons_ne_nil _ _) (by decide)
  rw [writeIds, bank.ranked_listed ids _ ['\n'] listed addressed rfl, bank.ranked_none ['\n'] rfl,
    List.append_nil]

structure PredictionAssembled (answer : Text) : Prop where
  fails : ∀ fault, (i.ask (.predict options answer)).run world = .error fault ↔
    (i.ask (.matchChart options)).run world = .error fault
  prints : ∀ printed warnings, (i.ask (.matchChart options)).run world = .ok (printed, warnings) →
    ∃ bank ids rules, i.loadBank world = .ok bank ∧
      printed = writeIds ids ++ ['\n'] ∧ bank.rankedIds printed = ids ∧
      bank.RulePerId (Bank.unionIds ids (bank.rankedIds answer)) (i.day world) rules ∧
      (i.ask (.predict options answer)).run world = .ok (rules ++ ['\n'], warnings) ∧
      (i.ask (.assemble (Bank.unionIds ids (bank.rankedIds answer)))).run world = .ok (rules ++ ['\n'], [])

theorem prediction_assembled (answer : Text) : PredictionAssembled i world options answer := by
  refine ⟨fun fault => ?_, fun printed warnings matchPrinted => ?_⟩
  · rw [run_match, run_predict]
    cases i.loadBank world with
    | error stopped => rfl
    | ok bank =>
        cases matched : i.matchedIds world bank options with
        | error stopped => simp only [matched, bind, Except.bind]
        | ok ids => simp [matched, bind, Except.bind, pure, Except.pure]
  · obtain ⟨bank, ids, loaded, matched, rfl, rfl⟩ := (i.run_match_ok_iff world options _ _).mp matchPrinted
    have matchedRows := i.matched_ids_addressed world bank options ids matched
    have unitedRows := bank.union_ids_addressed ids _ matchedRows (bank.ranked_addressed answer)
    refine ⟨bank, ids, _, loaded, rfl, read_printed_ids bank ids matchedRows,
      bank.rule_per_id _ (i.day world) unitedRows, ?_, ?_⟩
    · rw [run_predict]
      simp only [loaded, matched, bind, Except.bind, pure, Except.pure]
    · rw [run_assemble]
      simp only [loaded, bind, Except.bind, pure, Except.pure]

end CommandLine.Invocation

end Horoscope
