import NocRouting.Proofs.Command.Descriptions
import NocRouting.Proofs.Command.Itineraries
import NocRouting.Proofs.Command.Models
import NocRouting.Proofs.Command.Networks
import NocRouting.Proofs.Command.Options
import NocRouting.Proofs.Route.Failures

/-!
# How the command ends

A command line that names a problem leads to a routing, to a complaint that there is none, or to a
complaint that the problem is at fault; or else the command breaks off.  It breaks off for a few
reasons only: before it shows anything, because of a fault that it does not report, and after some
lines, because the output has no form for a character of the next one.

* `Command.Poses` says what is to be routed, and `Command.Meets` what can be at fault instead.
* `Command.Escapes` lists the faults that are not reported, and `Command.CannotShow` says how
  routes are shown in part.
* `Command.run_ends` says how the command ends, and what it has written then.
-/

namespace NocRouting

open Fault (IsOrdinary)

namespace Command

variable {charset : Charset} {files : Text → FileContent}
  {engines : Context → Value → Engine RoutingVar} {line : CommandLine} {c : Context}
  {d : Description} {m : TurnModel} {v : Value}

/-! ### Problems -/

/-- The value in the file that a command line names. -/
def valueOf (files : Text → FileContent) (line : CommandLine) : Except FileFault Value :=
  (files line.problem).value line.problem

/-- What the problem that a command line names asks to be routed. -/
def Poses (files : Text → FileContent) (line : CommandLine) (c : Context) : Prop :=
  ∃ v d m, valueOf files line = .ok v ∧ Description.ofValue v = .ok d ∧
    line.turnModel = some m ∧ d.context m = .ok c

/-- What can be at fault with a problem, a command line or an engine. -/
inductive Meets (files : Text → FileContent) (engines : Context → Value → Engine RoutingVar)
    (line : CommandLine) : Failure → Prop
  /-- The file holds no value. -/
  | unread {cause : FileFault} : valueOf files line = .error cause →
    Meets files engines line (.file cause)
  /-- The value describes no problem. -/
  | undescribed {v : Value} {fault : Fault} : valueOf files line = .ok v →
    Description.ofValue v = .error fault → Meets files engines line (.problem fault)
  /-- The choice of a turn model was given up. -/
  | unchosen : line.turnModel = none → Meets files engines line (.problem .mismatch)
  /-- The declared network cannot be realised. -/
  | unrealised {v : Value} {d : Description} {m : TurnModel} {fault : Fault} :
    valueOf files line = .ok v → Description.ofValue v = .ok d → line.turnModel = some m →
    d.context m = .error fault → Meets files engines line (.problem fault)
  /-- Routing fails. -/
  | failed {c : Context} {fault : Fault} : Poses files line c →
    Route.Fails (engines c line.resolution) c (optionsOf line) fault →
    Meets files engines line (.problem fault)

/-- The faults that are not reported, and what they come from. -/
inductive Escapes (files : Text → FileContent) (engines : Context → Value → Engine RoutingVar)
    (line : CommandLine) : Fault → Prop
  /-- Lists or objects are nested too deeply in the file. -/
  | nested {isList : Bool} {row column position : Nat} :
    valueOf files line = .error (.format ⟨.depth isList, row, column, position⟩) →
    Escapes files engines line (.tooDeep isList)
  /-- The placement is no object. -/
  | misplaced {v : Value} : valueOf files line = .ok v →
    Description.ofValue v = .error .unsupported → Description.MisplacesBlocks v →
    Escapes files engines line .unsupported
  /-- The intended position of a router has lists for coordinates. -/
  | spread {v : Value} {d : Description} {r : LogicalRouter} {cause : RangeFault} :
    valueOf files line = .ok v → Description.ofValue v = .ok d →
    Topology.realise d.architecture d.grid = .error (.range cause) →
    r ∈ d.architecture.routers → ¬ r.HasPoint → Escapes files engines line (.range cause)
  /-- The choice of a resolution was given up. -/
  | unresolved {c : Context} {cause : RangeFault} : Poses files line c →
    (RoutingModel.build c line.resolution (.int defaultMaxOverrun)).outcome =
      .error (.range cause) →
    line.resolution = .list [] → Escapes files engines line (.range cause)
  /-- A number is too large for what is done with it. -/
  | tooLarge : Meets files engines line (.problem .tooLarge) →
    Escapes files engines line .tooLarge
  /-- The engine itself ends in the fault. -/
  | raised {c : Context} {fault : Fault} : Poses files line c →
    (engines c line.resolution).Raises fault → Escapes files engines line fault

/-- Some lines of a legal routing are written, but the next one cannot be. -/
def CannotShow (charset : Charset) (c : Context) (lines : List Text) (fault : Fault) : Prop :=
  ∃ missed rest p, c.AreShownBy (lines ++ missed :: rest) ∧ (∀ text ∈ lines, charset.Covers text) ∧
    p ∈ missed ∧ charset p = false ∧ fault = .refused (.unencodable p)

/-! ### What is posed -/

lemma isDescribed_of_poses (h : Poses files line c) : c.IsDescribed := by
  obtain ⟨v, d, m, -, hd, -, hc⟩ := h
  obtain ⟨t, ht, hpure⟩ := Except.bind_eq_ok.1 hc
  obtain rfl := Except.pure_eq_ok.1 hpure
  obtain ⟨hread, -⟩ := Description.isRead_of_ofValue hd
  obtain ⟨tiles, -, -, -, hcharted, -⟩ := Topology.exists_of_realise ht
  refine ⟨hcharted, hread.flows, ?_⟩
  show ∃ n, t.linkBandwidth.number? = some n
  rw [Topology.linkBandwidth_of_realise ht]
  exact hread.linkBandwidth

/-! ### Faults that are not reported -/

lemma eq_tooLarge {fault : Fault} (h : IsOrdinary fault) (hfault : isReported fault = false) :
    fault = .tooLarge := by
  rcases h with hreported | rfl
  · rw [hreported] at hfault
    cases hfault
  · rfl

/-- Everything that can be at fault is reported, or is one of the faults that are not. -/
lemma escapes_of_meets {fault : Fault} (hline : line.resolution.IsChosen)
    (h : Meets files engines line (.problem fault)) (hfault : isReported fault = false) :
    Escapes files engines line fault := by
  have hordinary : IsOrdinary fault → Escapes files engines line fault := by
    intro hordinary
    obtain rfl := eq_tooLarge hordinary hfault
    exact .tooLarge h
  cases h with
  | undescribed hv hd =>
    rcases Description.ofValue_eq_error hd with hfault | ⟨rfl, hmisplaces⟩
    · exact hordinary hfault
    · exact .misplaced hv hd hmisplaces
  | unchosen _ => cases hfault
  | unrealised hv hd _ hc =>
    rcases Except.bind_eq_error.1 hc with ht | ⟨t, -, hpure⟩
    · rcases Topology.realise_eq_error ht with hfault | ⟨⟨cause, rfl⟩, r, hr, hpoint⟩
      · exact hordinary hfault
      · exact .spread hv hd ht hr hpoint
    · cases hpure
  | failed hc hfails =>
    cases hfails with
    | unbuilt hbuild =>
      rcases RoutingModel.build_eq_error (isDescribed_of_poses hc) hline hbuild with
        hfault | ⟨⟨cause, rfl⟩, hnone⟩
      · exact hordinary hfault
      · exact .unresolved hc hbuild hnone
    | raised hraises => exact .raised hc hraises
    | untimed elapsed _ hleft =>
      rcases timeLeft_eq_error hleft with rfl | rfl
      · cases hfault
      · exact hordinary isOrdinary_tooLarge

/-! ### What endings tell -/

/-- What an ending tells of the problem that a command line names. -/
def Accounts (charset : Charset) (files : Text → FileContent)
    (engines : Context → Value → Engine RoutingVar) (line : CommandLine) : Ending → Prop
  | .failed failure => Meets files engines line failure
  | .unrouted status => ∃ c first, Poses files line c ∧
    (engines c line.resolution).answer (Route.firstRequest c (optionsOf line)) = .ok first ∧
    first.status = status ∧ status.isFeasible = false
  | .routed lines => ∃ c, Poses files line c ∧ c.AreShownBy lines ∧
    ∀ text ∈ lines, charset.Covers text
  | .aborted lines fault =>
    (lines = [] ∧ isReported fault = false ∧ Escapes files engines line fault) ∨
    ∃ c, Poses files line c ∧ CannotShow charset c lines fault
  | _ => False

/-- A fault ends the command as it should. -/
lemma accounts_endingOf {fault : Fault} (hline : line.resolution.IsChosen)
    (h : Meets files engines line (.problem fault)) :
    Accounts charset files engines line (endingOf fault) := by
  unfold endingOf
  by_cases hfault : isReported fault = true
  · rw [if_pos hfault]
    exact h
  · rw [if_neg hfault]
    have hunreported := Bool.eq_false_of_not_eq_true hfault
    exact .inl ⟨rfl, hunreported, escapes_of_meets hline h hunreported⟩

lemma accounts_endingOfFile {cause : FileFault} (h : valueOf files line = .error cause) :
    Accounts charset files engines line (endingOfFile cause) := by
  unfold endingOfFile
  split
  · exact .inl ⟨rfl, rfl, .nested h⟩
  · exact .unread h

/-- Routing what is posed ends with a fault, without a routing, or with lines that show one. -/
lemma accounts_route (hline : line.resolution.IsChosen)
    (hengines : ∀ c, (engines c line.resolution).IsHonest) (hv : valueOf files line = .ok v)
    (hd : Description.ofValue v = .ok d) (hm : line.turnModel = some m) :
    Accounts charset files engines line (route charset engines ⟨d, m, optionsOf line⟩).2 := by
  unfold route
  cases hc : d.context m with
  | error fault => exact accounts_endingOf hline (.unrealised hv hd hm hc)
  | ok c =>
    have hposes : Poses files line c := ⟨v, d, m, hv, hd, hm, hc⟩
    have hproper : c.IsProper := (isDescribed_of_poses hposes).isProper
    have he : (engines c (optionsOf line).resolution).IsHonest := hengines c
    dsimp only
    cases houtcome :
      (NocRouting.route (engines c (optionsOf line).resolution) c (optionsOf line)).outcome with
    | error fault =>
      exact accounts_endingOf hline (.failed hposes (Route.fails hproper he houtcome))
    | ok result =>
      by_cases hfeasible : result.status.isFeasible = true
      · obtain ⟨paths, hr, hroutes⟩ := Route.exists_paths hproper he houtcome hfeasible
        obtain ⟨lines, hlines, hshows⟩ :=
          exists_itineraries hproper.topology.isSound hr hroutes
        have hwrites := writes_showRoutes charset hlines
        simp only [hfeasible, if_true]
        cases hresult : showRoutes charset c result [] with
        | ok done written =>
          rw [hresult] at hwrites
          obtain ⟨rfl, hcovers⟩ := hwrites
          exact ⟨c, hposes, hshows, hcovers⟩
        | error fault written =>
          rw [hresult] at hwrites
          obtain ⟨before, missed, rest, p, rfl, rfl, hbefore, hmissed⟩ := hwrites
          exact .inr ⟨c, hposes, missed, rest, p, hshows, hbefore, hmissed⟩
      · have hinfeasible := Bool.eq_false_of_not_eq_true hfeasible
        obtain ⟨first, ha, hstatus⟩ := Route.exists_first houtcome hinfeasible
        simp only [hinfeasible, Bool.false_eq_true, if_false]
        exact ⟨c, first, hposes, ha, hstatus, hinfeasible⟩

/-- What the command does for a command line is accounted for. -/
theorem accounts_runLine (hline : line.resolution.IsChosen)
    (hengines : ∀ c, (engines c line.resolution).IsHonest) :
    Accounts charset files engines line (runLine charset files engines line).ending := by
  unfold runLine
  cases hv : (files line.problem).value line.problem with
  | error cause => exact accounts_endingOfFile hv
  | ok v =>
    dsimp only
    cases hd : Description.ofValue v with
    | error fault => exact accounts_endingOf hline (.undescribed hv hd)
    | ok d =>
      dsimp only
      cases hm : line.turnModel with
      | none => exact accounts_endingOf hline (.unchosen hm)
      | some m => exact accounts_route hline hengines hv hd hm

/-- A command line that names a problem leads to one of five endings.

* The problem is at fault: code 2, and no output.
* An honest engine finds no routing: code 1, and no output.
* There is a legal routing: code 0, and a line for every flow, which shows its path.
* A fault comes up that is not reported, and the command breaks off without output.
* There is a legal routing, but the command breaks off at the first of its lines that has a
  character which the output does not have. -/
theorem run_ends (charset : Charset) (files : Text → FileContent)
    (engines : Context → Value → Engine RoutingVar) {arguments : List Text}
    (hparse : CommandLine.parse arguments = .ok (.run line))
    (hengines : ∀ c, (engines c line.resolution).IsHonest) :
    let ending := (run charset files engines arguments).ending
    (ending.code = 2 ∧ ending.output = [] ∧
      ∃ failure, ending = .failed failure ∧ Meets files engines line failure) ∨
    (ending.code = 1 ∧ ending.output = [] ∧ ∃ c first, Poses files line c ∧
      (engines c line.resolution).answer (Route.firstRequest c (optionsOf line)) = .ok first ∧
      first.status.isFeasible = false ∧ ending = .unrouted first.status) ∨
    (ending.code = 0 ∧ ∃ c lines, Poses files line c ∧
      ending.output = lines.flatMap (· ++ ("\n" : Text)) ∧ c.AreShownBy lines ∧
      ∀ text ∈ lines, charset.Covers text) ∨
    (∃ fault, ending = .aborted [] fault ∧ ending.output = [] ∧ isReported fault = false ∧
      Escapes files engines line fault) ∨
    ∃ c lines fault, ending = .aborted lines fault ∧ Poses files line c ∧
      ending.output = lines.flatMap (· ++ ("\n" : Text)) ∧ CannotShow charset c lines fault := by
  have hrun : run charset files engines arguments = runLine charset files engines line := by
    rw [run, hparse]
  have haccounts : Accounts charset files engines line
      (run charset files engines arguments).ending := by
    rw [hrun]
    exact accounts_runLine (CommandLine.isChosen_of_parse hparse) hengines
  generalize (run charset files engines arguments).ending = ending at haccounts
  cases ending with
  | informed text => exact haccounts.elim
  | misused cause => exact haccounts.elim
  | failed failure => exact .inl ⟨rfl, rfl, failure, rfl, haccounts⟩
  | unrouted status =>
    obtain ⟨c, first, hposes, ha, rfl, hinfeasible⟩ := haccounts
    exact .inr (.inl ⟨rfl, rfl, c, first, hposes, ha, hinfeasible, rfl⟩)
  | routed lines =>
    obtain ⟨c, hposes, hshows, hcovers⟩ := haccounts
    exact .inr (.inr (.inl ⟨rfl, c, lines, hposes, rfl, hshows, hcovers⟩))
  | aborted lines fault =>
    rcases haccounts with ⟨rfl, hunreported, hescapes⟩ | ⟨c, hposes, hcannot⟩
    · exact .inr (.inr (.inr (.inl ⟨fault, rfl, rfl, hunreported, hescapes⟩)))
    · exact .inr (.inr (.inr (.inr ⟨c, lines, fault, rfl, hposes, rfl, hcannot⟩)))

end Command

/-! ### Two routers -/

namespace Engine

variable {ν : Type}

/-- An engine that takes every posting, and reports given values where they meet everything
posted. -/
def reporting (σ : ν → Int) : Engine ν where
  accepts _ := .ok ()
  answer ps := .ok <|
    if Satisfies σ ps then ⟨.feasible, fun v => .int (σ v), 0.0⟩
    else ⟨.unknown, fun _ => .int 0, 0.0⟩

lemma reporting_isHonest (σ : ν → Int) : (reporting σ).IsHonest := by
  intro ps a ha hfeasible
  obtain rfl := Except.ok.inj ha
  by_cases hσ : Satisfies σ ps
  · rw [if_pos hσ]
    exact ⟨σ, fun _ => rfl, hσ⟩
  · rw [if_neg hσ] at hfeasible
    cases hfeasible

end Engine

namespace Pair

/-- A file that describes two routers, of which one is linked to the other, and a flow along the
link, with a given identifier of the first router and a given placement. -/
def file (id placement : String) : FileContent :=
  .octets <| List.flatMap (fun part => part.toList.map Char.toNat)
    ["\x7b\"grid\":\x7b\"width\":2,\"height\":1,\"tiles\":[",
      "\x7b\"name\":\"n\",\"x\":0,\"y\":0\x7d,\x7b\"name\":\"n\",\"x\":1,\"y\":0\x7d]\x7d,",
      "\"architecture\":\x7b\"router_tile\":\"n\",\"link_bandwidth\":1,",
      "\"link_latency\":1,\"router_latency\":1,\"routers\":[",
      "\x7b\"id\":\"", id, "\",\"x\":0,\"y\":0,\"connections\":[\"b\"]\x7d,",
      "\x7b\"id\":\"b\",\"x\":1,\"y\":0\x7d]\x7d,",
      "\"placement\":", placement, ",",
      "\"flows\":[\x7b\"source\":\"p\",\"sink\":\"q\",\"bandwidth\":1\x7d]\x7d"]

/-- The blocks are placed on the two routers. -/
def placed (_ : Text) : FileContent :=
  file "a" "\x7b\"p\":[0,0],\"q\":[1,0]\x7d"

/-- The identifier of the first router is one half of a character. -/
def halved (_ : Text) : FileContent :=
  file "\\ud800" "\x7b\"p\":[0,0],\"q\":[1,0]\x7d"

/-- The placement is an empty list. -/
def unplaced (_ : Text) : FileContent :=
  file "a" "[]"

/-- The command line that names the file. -/
def line : CommandLine :=
  { CommandLine.Parsing.start.line with problem := "pair.json" }

/-- The flow takes the link. -/
def engine : Engine RoutingVar :=
  .reporting fun
    | .link _ _ => 1
    | .arc _ _ _ => 1
    | .closing _ => 1
    | _ => 0

lemma parse_eq : CommandLine.parse ["pair.json"] = .ok (.run line) := rfl

lemma engine_isHonest : engine.IsHonest := Engine.reporting_isHonest _

end Pair

namespace Command

/-- The flow is routed along the link, and its line shows both routers. -/
theorem pair_run_ends : CommandLine.parse ["pair.json"] = .ok (.run Pair.line) ∧
    Pair.engine.IsHonest ∧
    let ending := (run .characters Pair.placed (fun _ _ => Pair.engine) ["pair.json"]).ending
    ending.code = 0 ∧ ending.output = "flow 0: a -> b\n" ∧
      ∃ c lines, Poses Pair.placed Pair.line c ∧
        ending.output = lines.flatMap (· ++ ("\n" : Text)) ∧ c.AreShownBy lines ∧
        ∀ text ∈ lines, Charset.characters.Covers text := by
  obtain ⟨hcode, houtput⟩ :
      (run .characters Pair.placed (fun _ _ => Pair.engine) ["pair.json"]).ending.code = 0 ∧
      (run .characters Pair.placed (fun _ _ => Pair.engine) ["pair.json"]).ending.output =
        "flow 0: a -> b\n" := by
    decide +kernel
  have hends := run_ends .characters Pair.placed (fun _ _ => Pair.engine) Pair.parse_eq
    fun _ => Pair.engine_isHonest
  refine ⟨Pair.parse_eq, Pair.engine_isHonest, ?_⟩
  generalize (run .characters Pair.placed (fun _ _ => Pair.engine) ["pair.json"]).ending = ending
    at hcode houtput hends ⊢
  -- of the five endings, only a routing that is shown comes with code 0
  rcases hends with ⟨htwo, -⟩ | ⟨hone, -⟩ | ⟨-, hlines⟩ | ⟨fault, rfl, -⟩ |
    ⟨c, lines, fault, rfl, -⟩
  · rw [htwo] at hcode
    cases hcode
  · rw [hone] at hcode
    cases hcode
  · exact ⟨hcode, houtput, hlines⟩
  · cases hcode
  · cases hcode

/-- A half of a character in an identifier is noticed only when the line is written. -/
example : (run .characters Pair.halved (fun _ _ => Pair.engine) ["pair.json"]).ending.errors =
    complaint "character '\\ud800' cannot be encoded" := by
  decide +kernel

/-- A placement that is an empty list makes the command break off, although a list in its place is
no more than a value of the wrong sort. -/
theorem unplaced_run_breaks_off : CommandLine.parse ["pair.json"] = .ok (.run Pair.line) ∧
    Pair.engine.IsHonest ∧
    (run .characters Pair.unplaced (fun _ _ => Pair.engine) ["pair.json"]).ending =
      .aborted [] .unsupported := by
  have hrun : (match
      (run .characters Pair.unplaced (fun _ _ => Pair.engine) ["pair.json"]).ending with
      | .aborted lines .unsupported => lines.isEmpty
      | _ => false) = true := by
    decide +kernel
  refine ⟨Pair.parse_eq, Pair.engine_isHonest, ?_⟩
  generalize (run .characters Pair.unplaced (fun _ _ => Pair.engine) ["pair.json"]).ending = ending
    at hrun ⊢
  split at hrun
  · rw [List.isEmpty_iff.1 hrun]
  · cases hrun

end Command

end NocRouting
