import LogosHooks.Proofs.Header.Invariant

/-!
Where the members of an interface are declared. The block of the first class reaches from the line
that starts it to the next line that ends a block or starts another class. The interface takes its
name from that line, but its members from all lines alike: first those in front of the block, then
those of the block, then those behind it.
-/
namespace LogosHooks

def endsBlock (line : Text) : Bool := "@end".toList.isPrefixOf line || isClassLine line

/-- The lines fall into those in front of the first class, its first line, the lines of its block,
and those from the end of the block on. -/
structure FirstBlock (ls front : List Text) (classLine : Text) (inside behind : List Text) :
    Prop where
  lines_eq : ls = front ++ classLine :: (inside ++ behind)
  front_classless : ∀ line ∈ front, isClassLine line = false
  starts : isClassLine classLine = true
  inside_open : ∀ line ∈ inside, endsBlock line = false
  behind_ends : ∀ line ∈ behind.head?, endsBlock line = true

section FirstBlock

variable {ls front inside behind : List Text} {classLine : Text}

theorem exists_firstBlock (h : ∃ line ∈ ls, isClassLine line = true) :
    ∃ front classLine inside behind, FirstBlock ls front classLine inside behind := by
  induction ls with
  | nil => simp at h
  | cons first rest ih =>
    by_cases hfirst : isClassLine first = true
    · refine ⟨[], first, rest.takeWhile (!endsBlock ·), rest.dropWhile (!endsBlock ·), ?_⟩
      exact {
        lines_eq := by rw [List.takeWhile_append_dropWhile, List.nil_append]
        front_classless := by simp
        starts := hfirst
        inside_open := fun line hline => by simpa using List.mem_takeWhile_imp hline
        behind_ends := by
          intro line hline
          have hnot := List.head?_dropWhile_not (!endsBlock ·) rest
          rw [Option.mem_def.mp hline] at hnot
          simpa using hnot
      }
    · obtain ⟨line, hline, hclass⟩ := h
      rcases List.mem_cons.mp hline with rfl | hline
      · exact absurd hclass hfirst
      · obtain ⟨front, classLine, inside, behind, hblock⟩ := ih ⟨line, hline, hclass⟩
        refine ⟨first :: front, classLine, inside, behind, ?_⟩
        exact { hblock with
          lines_eq := by rw [hblock.lines_eq, List.cons_append]
          front_classless := by
            intro other hother
            rcases List.mem_cons.mp hother with rfl | hother
            · simpa using hfirst
            · exact hblock.front_classless other hother
        }

theorem FirstBlock.isFirst (h : FirstBlock ls front classLine inside behind) :
    IsFirst (fun l => isClassLine l = true) ls front.length classLine where
  line_eq := by rw [h.lines_eq, List.getElem?_append_right (Nat.le_refl _)]; simp
  passes := h.starts
  earlier := by
    intro j hj other hother
    rw [h.lines_eq, List.getElem?_append_left hj] at hother
    rw [h.front_classless other (List.mem_of_getElem? hother)]
    exact Bool.false_ne_true

end FirstBlock

/-- A line that starts a class declares no member, even if it is at fault. -/
theorem Member.declared?_of_isClassLine {line : Text} (h : isClassLine line = true) :
    declared? line = none := by
  unfold declared? ofLine Line.read
  rw [if_pos h]
  cases readClassName line <;> rfl

def DropPolicy.keptOn (policy : DropPolicy) (ls : List Text) : List Member :=
  (ls.filterMap Member.declared?).filter (policy.verdict · == .kept)

namespace DropPolicy

theorem keptOn_append (policy : DropPolicy) (ls ls' : List Text) :
    policy.keptOn (ls ++ ls') = policy.keptOn ls ++ policy.keptOn ls' := by
  simp [keptOn]

theorem exists_line_of_mem_keptOn {policy : DropPolicy} {ls : List Text} {member : Member}
    (h : member ∈ policy.keptOn ls) : ∃ line ∈ ls, Member.ofLine line = .ok (some member) := by
  obtain ⟨line, hline, hdeclared⟩ := List.mem_filterMap.mp (List.mem_filter.mp h).1
  exact ⟨line, hline, Member.declared?_eq_some_iff.mp hdeclared⟩

/-- The line that starts the first class declares no member. -/
theorem keptOn_firstBlock (policy : DropPolicy) {ls front inside behind : List Text}
    {classLine : Text} (h : FirstBlock ls front classLine inside behind) :
    policy.keptOn ls = policy.keptOn front ++ policy.keptOn inside ++ policy.keptOn behind := by
  have hclass : policy.keptOn (classLine :: (inside ++ behind)) =
      policy.keptOn (inside ++ behind) := by
    rw [keptOn, List.filterMap_cons_none (Member.declared?_of_isClassLine h.starts), keptOn]
  rw [h.lines_eq, keptOn_append, hclass, keptOn_append, List.append_assoc]

end DropPolicy

namespace ClassInterface

def DeclaredOn (m : ClassInterface) (ls : List Text) : Prop :=
  (∀ method ∈ m.classMethods ++ m.instanceMethods,
    ∃ line ∈ ls, Member.ofLine line = .ok (some (.method method))) ∧
  ∀ p ∈ m.properties, ∃ line ∈ ls, Member.ofLine line = .ok (some (.property p))

theorem declaredOn_gather_iff {name : Text} {members : List Member} {ls : List Text} :
    (gather name members).DeclaredOn ls ↔
      ∀ member ∈ members, ∃ line ∈ ls, Member.ofLine line = .ok (some member) := by
  unfold DeclaredOn
  simp only [mem_methods_gather, mem_properties_gather]
  constructor
  · rintro ⟨hmethods, hproperties⟩ member hmember
    cases member with
    | method m => exact hmethods m hmember
    | property p => exact hproperties p hmember
  · exact fun h => ⟨fun m hm => h _ hm, fun p hp => h _ hp⟩

end ClassInterface

theorem collect_eq_gather_keptOn {policy : DropPolicy} {source : Text} {interface : ClassInterface}
    (h : collect policy source = .ok interface) :
    className source = .ok interface.name ∧
      interface = .gather interface.name (policy.keptOn (Text.lines source)) := by
  rw [collect_eq_gather] at h
  obtain ⟨⟨name, members⟩, hread, rfl⟩ := map_eq_ok_iff.mp h
  obtain ⟨hname, hmembers⟩ := readHeader_eq_ok_iff.mp hread
  refine ⟨hname, ?_⟩
  rw [DropPolicy.keptOn, ← readMembers_eq_filterMap hmembers]
  rfl

theorem exists_classLine_of_className {source name : Text} (h : className source = .ok name) :
    ∃ line ∈ Text.lines source, isClassLine line = true := by
  by_contra hnone
  rw [className, firstClassName_of_forall fun line hline hclass => hnone ⟨line, hline, hclass⟩] at h
  cases h

/-- The members of an interface are those that are kept of all lines of the header, in front of the
block of its class, in the block and behind it. All of them are declared in the block exactly if
those that are declared elsewhere are declared there too. -/
theorem collect_eq_blocks {policy : DropPolicy} {source : Text} {interface : ClassInterface}
    (h : collect policy source = .ok interface) :
    interface.DeclaredOn (Text.lines source) ∧
    ∃ front classLine inside behind,
      FirstBlock (Text.lines source) front classLine inside behind ∧
      readClassName classLine = .ok interface.name ∧
      interface = .gather interface.name
        (policy.keptOn front ++ policy.keptOn inside ++ policy.keptOn behind) ∧
      (interface.DeclaredOn inside ↔ ∀ member ∈ policy.keptOn front ++ policy.keptOn behind,
        ∃ line ∈ inside, Member.ofLine line = .ok (some member)) := by
  obtain ⟨hname, hall⟩ := collect_eq_gather_keptOn h
  obtain ⟨front, classLine, inside, behind, hblock⟩ :=
    exists_firstBlock (exists_classLine_of_className hname)
  have hkept := policy.keptOn_firstBlock hblock
  rw [hkept] at hall
  refine ⟨?_, front, classLine, inside, behind, hblock, ?_, hall, ?_⟩
  · rw [hall, ← hkept, ClassInterface.declaredOn_gather_iff]
    exact fun _ => DropPolicy.exists_line_of_mem_keptOn
  · rw [className_of_isFirst hblock.isFirst] at hname
    exact atLine_eq_ok_iff.mp hname
  · rw [hall, ClassInterface.declaredOn_gather_iff]
    constructor
    · intro hmembers member hmember
      apply hmembers
      rcases List.mem_append.mp hmember with hm | hm
      · exact List.mem_append_left _ (List.mem_append_left _ hm)
      · exact List.mem_append_right _ hm
    · intro hmembers member hmember
      rcases List.mem_append.mp hmember with hm | hm
      · rcases List.mem_append.mp hm with hm | hm
        · exact hmembers member (List.mem_append_left _ hm)
        · exact DropPolicy.exists_line_of_mem_keptOn hm
      · exact hmembers member (List.mem_append_right _ hm)

theorem collect_eq_blocks_door :
    let source := ("#import <UI/UI.h>\r\n@interface Door : Wall\n+ (id)door;\n- (int)width;\n" ++
      "@property int age;\n@end\n").toList
    let door : Method := ⟨"door".toList, true, ⟨"id".toList, 0⟩, [], false⟩
    let width : Method := ⟨"width".toList, false, ⟨"int".toList, 0⟩, [], false⟩
    let interface : ClassInterface :=
      ⟨"Door".toList, [door], [width], [⟨"age".toList, ⟨"int".toList, 0⟩⟩]⟩
    collect {} source = .ok interface ∧ interface.DeclaredOn (Text.lines source) := by
  intro source door width interface
  have hcollect : collect {} source = .ok interface := by decide +kernel
  exact ⟨hcollect, (collect_eq_blocks hcollect).1⟩

/-- Methods of a protocol in front of the class, and of another class behind it, become members of
the class. -/
theorem collect_members_of_other_blocks :
    let source := ("@protocol Lockable\n- (void)lock;\n@end\n@interface Door : Wall\n" ++
      "- (int)width;\n@end\n@interface Window : Wall\n- (id)pane;\n@end").toList
    let lock : Method := ⟨"lock".toList, false, ⟨"void".toList, 0⟩, [], false⟩
    let width : Method := ⟨"width".toList, false, ⟨"int".toList, 0⟩, [], false⟩
    let pane : Method := ⟨"pane".toList, false, ⟨"id".toList, 0⟩, [], false⟩
    let interface : ClassInterface := ⟨"Door".toList, [], [lock, width, pane], []⟩
    let inside := ["- (int)width;".toList]
    collect {} source = .ok interface ∧
      FirstBlock (Text.lines source)
        ["@protocol Lockable".toList, "- (void)lock;".toList, "@end".toList]
        "@interface Door : Wall".toList inside
        ["@end".toList, "@interface Window : Wall".toList, "- (id)pane;".toList, "@end".toList] ∧
      ¬ interface.DeclaredOn inside := by
  intro source lock width pane interface inside
  have hlock : Member.ofLine "- (int)width;".toList ≠ .ok (some (.method lock)) := by
    decide +kernel
  refine ⟨by decide +kernel, ⟨by decide +kernel, by decide, by decide, by decide, by decide⟩, ?_⟩
  rintro ⟨hmethods, -⟩
  obtain ⟨line, hline, hread⟩ := hmethods lock (by simp [interface])
  rw [List.mem_singleton.mp hline] at hread
  exact hlock hread

end LogosHooks
