import LogosHooks.Proofs.Header.Invariant

/-!
The log of a header. Each line is reported on by itself, and the reports follow each other in the
order of the lines. What is hooked and what is skipped can be told from them: together, and in this
order, it is what would be hooked if nothing was skipped.
-/
namespace LogosHooks

open Text

/-- What is reported of a line, when the header comes out as this interface. -/
inductive LineReport (policy : DropPolicy) (interface : ClassInterface) :
    Line → List CollectEvent → Prop where
  | classStart (name : Text) : LineReport policy interface (.classStart name) []
  | other : LineReport policy interface .other []
  | unhookable {parts : MethodParts} {m : Method} (hm : parts.method = .ok m)
      (hhook : m.selector ∈ unhookableSelectors) : LineReport policy interface (.method parts) []
  | hooked {parts : MethodParts} {m : Method} (hm : parts.method = .ok m)
      (hhook : m.selector ∉ unhookableSelectors) (hkeep : policy.keepsType m.returnType = true) :
      LineReport policy interface (.method parts) [.hooking interface.name m]
  | skippedMethod {parts : MethodParts} {m : Method} (hm : parts.method = .ok m)
      (hhook : m.selector ∉ unhookableSelectors) (hkeep : policy.keepsType m.returnType = false) :
      LineReport policy interface (.method parts) [.skippingMethod interface.name m]
  | keptProperty {parts : PropertyParts} (hkeep : policy.keepsType parts.property.type = true)
      (hmem : parts.property ∈ interface.properties) :
      LineReport policy interface (.property parts) []
  | skippedProperty {parts : PropertyParts} (hkeep : policy.keepsType parts.property.type = false)
      (hmem : parts.property ∉ interface.properties) :
      LineReport policy interface (.property parts)
        [.skippingProperty interface.name parts.property]

namespace CollectEvent

def method? : CollectEvent → Option (Method × Bool)
  | hooking _ m => some (m, true)
  | skippingMethod _ m => some (m, false)
  | _ => none

def property? : CollectEvent → Option Property
  | skippingProperty _ p => some p
  | _ => none

def selectorsUnder (message : Text) (log : List CollectEvent) : List Text :=
  (log.filter (·.message == message)).filterMap (·.fields.lookup "selector")

def foundMessage : Text := "Found class".toList

def builtMessage : Text := "Built class model".toList

def hookingMessage (isStatic : Bool) : Text :=
  if isStatic then "Hooking class method".toList else "Hooking instance method".toList

def skipMessages : List Text :=
  ["Unknown return type; skipping class method".toList,
    "Unknown return type; skipping instance method".toList,
    "Unknown type; skipping property".toList]

theorem message_hooking (name : Text) (m : Method) :
    (hooking name m).message = hookingMessage m.isStatic := by
  have h : ∀ isStatic : Bool, "Hooking ".toList ++
      (if isStatic then "class method".toList else "instance method".toList) =
      hookingMessage isStatic := by decide +kernel
  exact h m.isStatic

theorem message_skippingMethod_mem (name : Text) (m : Method) :
    (skippingMethod name m).message ∈ skipMessages := by
  have h : ∀ isStatic : Bool, "Unknown return type; skipping ".toList ++
      (if isStatic then "class method".toList else "instance method".toList) ∈ skipMessages := by
    decide +kernel
  exact h m.isStatic

theorem message_skippingProperty_mem (name : Text) (p : Property) :
    (skippingProperty name p).message ∈ skipMessages := by
  have h : "Unknown type; skipping property".toList ∈ skipMessages := by decide +kernel
  exact h

theorem hookingMessage_not_mem (isStatic : Bool) :
    hookingMessage isStatic ∉ foundMessage :: builtMessage :: skipMessages := by
  revert isStatic
  decide +kernel

theorem hookingMessage_beq (isStatic isStatic' : Bool) :
    (hookingMessage isStatic == hookingMessage isStatic') = (isStatic == isStatic') := by
  revert isStatic isStatic'
  decide +kernel

/-- The events with the message for hooked methods of a kind name these methods. -/
theorem selectorsUnder_hookingMessage (isStatic : Bool) (log : List CollectEvent) :
    selectorsUnder (hookingMessage isStatic) log =
      (((log.filterMap method?).filter (·.2)).filter (·.1.isStatic == isStatic)).map
        (·.1.wholeSelector) := by
  rw [selectorsUnder, List.filterMap_filter, List.filter_filterMap, List.filter_filterMap,
    List.map_filterMap]
  have hother : ∀ {e : CollectEvent}, e.message ∈ foundMessage :: builtMessage :: skipMessages →
      (if (e.message == hookingMessage isStatic) = true then e.fields.lookup "selector"
        else none) = none := by
    intro e he
    have hne : e.message ≠ hookingMessage isStatic := fun h =>
      hookingMessage_not_mem isStatic (h ▸ he)
    rw [if_neg (by simpa using hne)]
  refine List.filterMap_congr fun e _ => ?_
  cases e with
  | hooking name m =>
    have hlookup : (hooking name m).fields.lookup "selector" = some m.wholeSelector := rfl
    rw [message_hooking, hookingMessage_beq, hlookup]
    cases hm : m.isStatic == isStatic <;> simp [method?, Option.filter, hm]
  | foundClass name => exact hother List.mem_cons_self
  | collected interface => exact hother (List.mem_cons_of_mem _ List.mem_cons_self)
  | skippingMethod name m =>
    exact hother
      (List.mem_cons_of_mem _ (List.mem_cons_of_mem _ (message_skippingMethod_mem name m)))
  | skippingProperty name p =>
    exact hother
      (List.mem_cons_of_mem _ (List.mem_cons_of_mem _ (message_skippingProperty_mem name p)))

end CollectEvent

/-! ### One line -/

namespace DropPolicy

variable (policy : DropPolicy)

theorem event?_method (name : Text) (m : Method) :
    policy.event? name (.method m) =
      if m.selector ∈ unhookableSelectors then none
      else if policy.keepsType m.returnType then some (.hooking name m)
      else some (.skippingMethod name m) := by
  unfold event? verdict Member.isUnhookable
  by_cases hhook : m.selector ∈ unhookableSelectors
  · simp [hhook]
  · cases hkeep : policy.keepsType m.returnType <;> simp [hhook, Member.type, hkeep]

theorem event?_property (name : Text) (p : Property) :
    policy.event? name (.property p) =
      if policy.keepsType p.type then none else some (.skippingProperty name p) := by
  unfold event? verdict Member.isUnhookable
  cases hkeep : policy.keepsType p.type <;> simp [Member.type, hkeep]

/-- A member is reported as hooked or, where dropping is on, as skipped. -/
theorem message_event? {name : Text} {member : Member} {e : CollectEvent}
    (h : policy.event? name member = some e) :
    (∃ isStatic, e.message = CollectEvent.hookingMessage isStatic) ∨
      policy.dropUnknown = true ∧ e.message ∈ CollectEvent.skipMessages := by
  have hdrop : ∀ {ty}, ¬ policy.keepsType ty = true → policy.dropUnknown = true := by
    intro ty hty
    simp only [keepsType, Bool.or_eq_true, Bool.not_eq_true', not_or, Bool.not_eq_false] at hty
    exact hty.1
  cases member with
  | method m =>
    rw [event?_method] at h
    split at h
    · cases h
    · split at h
      · cases h
        exact Or.inl ⟨m.isStatic, CollectEvent.message_hooking name m⟩
      · next hkeep =>
        cases h
        exact Or.inr ⟨hdrop hkeep, CollectEvent.message_skippingMethod_mem name m⟩
  | property p =>
    rw [event?_property] at h
    split at h
    · cases h
    · next hkeep =>
      cases h
      exact Or.inr ⟨hdrop hkeep, CollectEvent.message_skippingProperty_mem name p⟩

def reportOn (name line : Text) : List CollectEvent :=
  ((Member.declared? line).bind (policy.event? name)).toList

theorem reportOn_of_ofLine {line : Text} {here : Option Member} (h : Member.ofLine line = .ok here)
    (name : Text) : policy.reportOn name line = (here.bind (policy.event? name)).toList := by
  rw [reportOn, Member.declared?, h]

/-- The log of the members is what is reported of the lines. -/
theorem filterMap_event?_eq_flatten (name : Text) (ls : List Text) :
    (ls.filterMap Member.declared?).filterMap (policy.event? name) =
      (ls.map (policy.reportOn name)).flatten := by
  rw [List.filterMap_filterMap, List.filterMap_eq_flatMap_toList, List.flatMap_def]
  rfl

end DropPolicy

/-- Where all lines are read, each is read by itself. -/
theorem exists_ofLine_of_readMembers {number : Nat} {ls : List Text} {members : List Member}
    (h : readMembers number ls = .ok members) {line : Text} (hline : line ∈ ls) :
    ∃ here, Member.ofLine line = .ok here := by
  induction ls generalizing number members with
  | nil => cases hline
  | cons first rest ih =>
    obtain ⟨here, hhere, h⟩ := bind_eq_ok_iff.mp h
    obtain ⟨later, hlater, -⟩ := bind_eq_ok_iff.mp h
    rcases List.mem_cons.mp hline with rfl | hline
    · exact ⟨here, atLine_eq_ok_iff.mp hhere⟩
    · exact ih hlater hline

/-- A line that is read has its report, if the interface has the properties that are kept. -/
theorem lineReport_reportOn {policy : DropPolicy} {interface : ClassInterface} {line : Text}
    {here : Option Member} (h : Member.ofLine line = .ok here)
    (hproperty : ∀ p, here = some (.property p) →
      (p ∈ interface.properties ↔ policy.keepsType p.type = true)) :
    ∃ told, Line.read line = .ok told ∧
      LineReport policy interface told (policy.reportOn interface.name line) := by
  rw [policy.reportOn_of_ofLine h]
  obtain ⟨told, htold, h⟩ := bind_eq_ok_iff.mp h
  refine ⟨told, htold, ?_⟩
  cases told with
  | classStart name =>
    cases h
    exact .classStart name
  | other =>
    cases h
    exact .other
  | property parts =>
    cases h
    have hmem := hproperty parts.property rfl
    rw [Option.bind_some, DropPolicy.event?_property]
    cases hkeep : policy.keepsType parts.property.type with
    | true => exact .keptProperty hkeep (hmem.mpr hkeep)
    | false => exact .skippedProperty hkeep (by simp [hmem, hkeep])
  | method parts =>
    obtain ⟨m, hm, h⟩ := bind_eq_ok_iff.mp h
    cases h
    rw [Option.bind_some, DropPolicy.event?_method]
    by_cases hhook : m.selector ∈ unhookableSelectors
    · rw [if_pos hhook]
      exact .unhookable hm hhook
    · rw [if_neg hhook]
      cases hkeep : policy.keepsType m.returnType with
      | true => exact .hooked hm hhook hkeep
      | false => exact .skippedMethod hm hhook hkeep

/-! ### What is kept and what is skipped -/

/-- The log tells of all members that would be hooked if nothing was skipped, in their order: of the
methods whether they are hooked, and of the properties those that are not among the kept ones. -/
structure LogCovers (policy : DropPolicy) (interface full : ClassInterface)
    (log : List CollectEvent) : Prop where
  classMethods : (log.filterMap CollectEvent.method?).filter (·.1.isStatic) =
    full.classMethods.map fun m => (m, policy.keepsType m.returnType)
  instanceMethods : (log.filterMap CollectEvent.method?).filter (!·.1.isStatic) =
    full.instanceMethods.map fun m => (m, policy.keepsType m.returnType)
  skipped : log.filterMap CollectEvent.property? =
    full.properties.filter fun p => !policy.keepsType p.type
  kept : interface =
    full.restrict (fun m => policy.keepsType m.returnType) fun p => policy.keepsType p.type

section

variable {policy : DropPolicy} {interface : ClassInterface}

theorem filterMap_logOf {α : Type} {f : CollectEvent → Option α} (members : List Member)
    (hfound : ∀ name, f (.foundClass name) = none) (hbuilt : ∀ i, f (.collected i) = none) :
    (policy.logOf interface members).filterMap f =
      members.filterMap fun member => (policy.event? interface.name member).bind f := by
  rw [DropPolicy.logOf, List.cons_append, List.filterMap_cons_none (hfound _),
    List.filterMap_append, List.filterMap_filterMap, List.filterMap_cons_none (hbuilt _),
    List.filterMap_nil, List.append_nil]

/-- The methods that are told of are those that can be hooked. -/
theorem filterMap_method?_logOf (members : List Member) :
    (policy.logOf interface members).filterMap CollectEvent.method? =
      ((members.filter (!·.isUnhookable)).filterMap Member.method?).map
        fun m => (m, policy.keepsType m.returnType) := by
  rw [filterMap_logOf members (fun _ => rfl) (fun _ => rfl), List.filterMap_filter,
    List.map_filterMap]
  refine List.filterMap_congr fun member _ => ?_
  cases member with
  | method m =>
    rw [DropPolicy.event?_method]
    by_cases hhook : m.selector ∈ unhookableSelectors
    · simp [Member.isUnhookable, hhook]
    · cases hkeep : policy.keepsType m.returnType <;>
        simp [Member.isUnhookable, Member.method?, CollectEvent.method?, hhook, hkeep]
  | property p =>
    rw [DropPolicy.event?_property]
    cases policy.keepsType p.type <;> rfl

theorem filterMap_property?_logOf (members : List Member) :
    (policy.logOf interface members).filterMap CollectEvent.property? =
      ((members.filter (!·.isUnhookable)).filterMap Member.property?).filter
        fun p => !policy.keepsType p.type := by
  rw [filterMap_logOf members (fun _ => rfl) (fun _ => rfl), List.filterMap_filter,
    List.filter_filterMap]
  refine List.filterMap_congr fun member _ => ?_
  cases member with
  | method m =>
    rw [DropPolicy.event?_method]
    by_cases hhook : m.selector ∈ unhookableSelectors
    · simp [Member.isUnhookable, hhook]
    · cases hkeep : policy.keepsType m.returnType <;>
        simp [Member.isUnhookable, Member.property?, CollectEvent.property?, hhook]
  | property p =>
    rw [DropPolicy.event?_property]
    cases hkeep : policy.keepsType p.type <;>
      simp [Member.isUnhookable, Member.property?, CollectEvent.property?, Option.filter, hkeep]

theorem logCovers_logOf (name : Text) (members : List Member) :
    LogCovers policy (.gather name (members.filter (policy.verdict · == .kept)))
      (.gather name (members.filter (!·.isUnhookable))) (policy.logOf interface members) where
  classMethods := by
    rw [filterMap_method?_logOf, List.filter_map]
    rfl
  instanceMethods := by
    rw [filterMap_method?_logOf, List.filter_map]
    rfl
  skipped := filterMap_property?_logOf members
  kept := ClassInterface.gather_kept policy name members

/-! ### The log as a whole -/

open CollectEvent

theorem mem_logOf_iff {members : List Member} {e : CollectEvent} :
    e ∈ policy.logOf interface members ↔ e = .foundClass interface.name ∨
      (∃ member ∈ members, policy.event? interface.name member = some e) ∨
      e = .collected interface := by
  rw [DropPolicy.logOf, List.cons_append, List.mem_cons, List.mem_append, List.mem_filterMap,
    List.mem_singleton]

/-- What is reported of the members has none of the messages for the beginning and the end. -/
theorem message_not_mem_of_event? {name : Text} {member : Member} {e : CollectEvent}
    (h : policy.event? name member = some e) : e.message ∉ [foundMessage, builtMessage] := by
  have hskip : ∀ message ∈ [foundMessage, builtMessage], message ∉ skipMessages := by
    decide +kernel
  intro hmem
  rcases policy.message_event? h with ⟨isStatic, hhook⟩ | ⟨-, hskipped⟩
  · apply hookingMessage_not_mem isStatic
    rw [← hhook]
    exact List.mem_append_left skipMessages hmem
  · exact hskip _ hmem hskipped

/-- The beginning and the end are reported once. -/
theorem countP_logOf {message : Text} (members : List Member)
    (hmessage : message ∈ [foundMessage, builtMessage]) :
    (policy.logOf interface members).countP (·.message == message) = 1 := by
  have hmembers : (members.filterMap (policy.event? interface.name)).countP
      (·.message == message) = 0 := by
    rw [List.countP_eq_zero]
    intro e he heq
    obtain ⟨member, -, hevent⟩ := List.mem_filterMap.mp he
    exact message_not_mem_of_event? hevent (eq_of_beq heq ▸ hmessage)
  have hends : ∀ message ∈ [foundMessage, builtMessage],
      0 + (if (builtMessage == message) = true then 1 else 0) +
        (if (foundMessage == message) = true then 1 else 0) = 1 := by
    decide +kernel
  rw [DropPolicy.logOf, List.cons_append, List.countP_cons, List.countP_append, hmembers,
    List.countP_singleton]
  exact hends message hmessage

theorem eq_collected_of_message {members : List Member} {e : CollectEvent}
    (he : e ∈ policy.logOf interface members) (hmessage : e.message = builtMessage) :
    e = .collected interface := by
  have hne : foundMessage ≠ builtMessage := by decide +kernel
  rcases mem_logOf_iff.mp he with rfl | ⟨member, -, hevent⟩ | hcollected
  · exact absurd hmessage hne
  · exact absurd (by simp [hmessage]) (message_not_mem_of_event? hevent)
  · exact hcollected

theorem not_mem_skipMessages_logOf (members : List Member) (hdrop : policy.dropUnknown = false)
    {e : CollectEvent} (he : e ∈ policy.logOf interface members) : e.message ∉ skipMessages := by
  have hskip : ∀ message ∈ [foundMessage, builtMessage, hookingMessage true, hookingMessage false],
      message ∉ skipMessages := by decide +kernel
  rcases mem_logOf_iff.mp he with rfl | ⟨member, -, hevent⟩ | rfl
  · exact hskip foundMessage (by simp)
  · rcases policy.message_event? hevent with ⟨isStatic, hhook⟩ | ⟨hon, -⟩
    · rw [hhook]
      cases isStatic <;> exact hskip _ (by simp)
    · simp [hdrop] at hon
  · exact hskip builtMessage (by simp)

/-- The selectors under the message for a kind are those of the methods of this kind that are
kept. -/
theorem LogCovers.selectorsUnder {full : ClassInterface} {log : List CollectEvent}
    (h : LogCovers policy interface full log) :
    selectorsUnder (hookingMessage true) log = interface.classMethods.map Method.wholeSelector ∧
      selectorsUnder (hookingMessage false) log =
        interface.instanceMethods.map Method.wholeSelector := by
  have hkept : ∀ methods : List Method,
      (((methods.map fun m => (m, policy.keepsType m.returnType)).filter (·.2)).map
        (·.1.wholeSelector)) =
      (methods.filter fun m => policy.keepsType m.returnType).map Method.wholeSelector := by
    intro methods
    rw [List.filter_map, List.map_map]
    rfl
  constructor
  · rw [selectorsUnder_hookingMessage, List.filter_comm]
    simp only [beq_true, h.classMethods, hkept]
    rw [h.kept]
    rfl
  · rw [selectorsUnder_hookingMessage, List.filter_comm]
    simp only [beq_false, h.instanceMethods, hkept]
    rw [h.kept]
    rfl

end

open CollectEvent

/-- The log of a header from which this interface is collected. -/
structure IsLogOf (policy : DropPolicy) (source : Text) (interface : ClassInterface)
    (log : List CollectEvent) : Prop where
  /-- The lines are reported on one by one, between the beginning and the end. -/
  lines : ∃ reports : List (List CollectEvent),
    List.Forall₂ (fun line events =>
      ∃ told, Line.read line = .ok told ∧ LineReport policy interface told events)
      (Text.lines source) reports ∧
    log = .foundClass interface.name :: reports.flatten ++ [.collected interface]
  found_once : log.countP (·.message == "Found class".toList) = 1
  built_once : log.countP (·.message == "Built class model".toList) = 1
  built_fields : ∀ e ∈ log, e.message = "Built class model".toList →
    e.fields = [("class", interface.name),
      ("class_methods", Nat.toDigits 10 interface.classMethods.length),
      ("instance_methods", Nat.toDigits 10 interface.instanceMethods.length),
      ("properties", Nat.toDigits 10 interface.properties.length)]
  classSelectors : selectorsUnder "Hooking class method".toList log =
    interface.classMethods.map Method.wholeSelector
  instanceSelectors : selectorsUnder "Hooking instance method".toList log =
    interface.instanceMethods.map Method.wholeSelector
  keepAll : policy.dropUnknown = false → ∀ e ∈ log, e.message ∉ skipMessages

/-- The properties of the interface are those that are declared and kept. -/
theorem mem_properties_iff {policy : DropPolicy} {name : Text} {members : List Member}
    {p : Property} (hmember : .property p ∈ members) :
    p ∈ (ClassInterface.gather name (members.filter (policy.verdict · == .kept))).properties ↔
      policy.keepsType p.type = true := by
  rw [ClassInterface.mem_properties_gather, List.mem_filter, DropPolicy.verdict_beq_kept]
  simp [hmember, Member.isUnhookable, Member.type]

theorem isLogOf_logOf {policy : DropPolicy} {source name : Text} {members : List Member}
    (h : readMembers 1 (Text.lines source) = .ok members) :
    let interface := .gather name (members.filter (policy.verdict · == .kept))
    IsLogOf policy source interface (policy.logOf interface members) := by
  intro interface
  have hcovers : LogCovers policy interface _ (policy.logOf interface members) :=
    logCovers_logOf name members
  have hselectors := hcovers.selectorsUnder
  refine ⟨⟨(Text.lines source).map (policy.reportOn name), ?_, ?_⟩,
    countP_logOf members List.mem_cons_self,
    countP_logOf members (List.mem_cons_of_mem foundMessage List.mem_cons_self), ?_,
    hselectors.1, hselectors.2, fun hdrop e he => not_mem_skipMessages_logOf members hdrop he⟩
  · rw [List.forall₂_map_right_iff, List.forall₂_same]
    intro line hline
    obtain ⟨here, hhere⟩ := exists_ofLine_of_readMembers h hline
    refine lineReport_reportOn hhere fun p hp => mem_properties_iff ?_
    rw [readMembers_eq_filterMap h, List.mem_filterMap]
    exact ⟨line, hline, Member.declared?_eq_some_iff.mpr (hp ▸ hhere)⟩
  · rw [← DropPolicy.filterMap_event?_eq_flatten, ← readMembers_eq_filterMap h]
    rfl
  · intro e he hmessage
    rw [eq_collected_of_message he hmessage]
    rfl

/-- The log accounts for every line of a header that is read. Every method and every property is
hooked or kept, or reported as skipped, in the order of the lines and between one report on the
beginning and one on the end, unless it is one of the methods that are never hooked. What is hooked
and what is skipped is together what is hooked if nothing is skipped, whatever types are known. -/
theorem collectLogged_accounts {policy : DropPolicy} {source : Text} {interface : ClassInterface}
    (h : collect policy source = .ok interface) :
    ∃ log, collectLogged policy source = .ok (interface, log) ∧
      IsLogOf policy source interface log ∧
      ∀ registry, ∃ full, collect ⟨registry, false⟩ source = .ok full ∧
        LogCovers policy interface full log := by
  rw [collect_eq_gather] at h
  obtain ⟨⟨name, members⟩, hread, rfl⟩ := map_eq_ok_iff.mp h
  have hmembers := (readHeader_eq_ok_iff.mp hread).2
  refine ⟨_, ?_, isLogOf_logOf hmembers, fun registry => ⟨_, ?_, logCovers_logOf name members⟩⟩
  · rw [collectLogged_eq, hread]
    rfl
  · rw [collect_keepAll, hread]
    rfl

theorem collectLogged_accounts_panel :
    let source := ("- (Opaque *)unlock;\n@interface Panel : NSObject\n+ (id)make:(int)n\n" ++
      "- (void).cxx_destruct;\n@property Opaque *lid;\n@property (nonatomic) int size;").toList
    let name := "Panel".toList
    let unlock : Method := ⟨"unlock".toList, false, ⟨"Opaque".toList, 1⟩, [], false⟩
    let make : Method :=
      ⟨"make".toList, true, ⟨"id".toList, 0⟩, [⟨[], ⟨"int".toList, 0⟩, "n".toList⟩], false⟩
    let lid : Property := ⟨"lid".toList, ⟨"Opaque".toList, 1⟩⟩
    let size : Property := ⟨"size".toList, ⟨"int".toList, 0⟩⟩
    let interface : ClassInterface := ⟨name, [make], [], [size]⟩
    let full : ClassInterface := ⟨name, [make], [unlock], [lid, size]⟩
    collect {} source = .ok interface ∧ collect ⟨.builtin, false⟩ source = .ok full ∧
      ∃ log, collectLogged {} source = .ok (interface, log) ∧ IsLogOf {} source interface log ∧
        LogCovers {} interface full log := by
  intro source name unlock make lid size interface full
  have hfull : collect ⟨.builtin, false⟩ source = .ok full := by decide +kernel
  have hopaque : DropPolicy.keepsType {} ⟨"Opaque".toList, 1⟩ = false := by
    have hname : isBuiltinName "Opaque".toList = false := by
      rw [isBuiltinName_toList]
      decide +kernel
    have hword : DeclaredType.lastWord ⟨"Opaque".toList, 1⟩ = "Opaque".toList := by decide
    rw [DropPolicy.keepsType, Registry.knows, Registry.containsName, hword, hname]
    rfl
  have hid : DropPolicy.keepsType {} make.returnType = true := by decide +kernel
  have hint : DropPolicy.keepsType {} size.type = true := by decide +kernel
  have hcollect : collect {} source = .ok interface := by
    rw [collect_eq_restrict {} .builtin, hfull]
    simp only [Except.map, full, unlock, lid, ClassInterface.restrict, List.filter_cons, hopaque,
      hid, hint]
    rfl
  obtain ⟨log, hlog, hof, hcovers⟩ := collectLogged_accounts hcollect
  obtain ⟨full', hfull', hcovers⟩ := hcovers .builtin
  rw [hfull, Except.ok.injEq] at hfull'
  subst hfull'
  exact ⟨hcollect, hfull, log, hlog, hof, hcovers⟩

end LogosHooks
