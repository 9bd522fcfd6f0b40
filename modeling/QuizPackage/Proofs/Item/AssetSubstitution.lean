import QuizPackage.Proofs.Item.AssetLinks
import QuizPackage.Proofs.Text.Substituting

/-!
# Linking as substitution

Where no name of an asset holds a quote or an equals sign, the sources that are linked never
overlap, and none of them comes of linking another. All passes together are then one substitution
of the sources in the markup as it was, for which the order of the names and their repetitions do
not matter, and which changes nothing the second time.
-/

namespace QuizPackage

open Text

variable {quote other : Char} {value name front back text rest : List Char}
  {passes : List (Char × List Char)} {pass : Char × List Char} {names : List String}

/-- An address that holds neither of the quotes, and no sign that ends the mark of a source. -/
structure IsBare (address : List Char) : Prop where
  unquoted : ∀ quote ∈ quotes, quote ∉ address
  unequated : '=' ∉ address

theorem isBare_iff {address : List Char} :
    IsBare address ↔ ∀ c ∈ ['"', '\'', '='], c ∉ address := by
  constructor
  · intro bare
    have unquoted := forall_quotes.mp bare.unquoted
    simp [unquoted, bare.unequated]
  · intro none
    exact ⟨forall_quotes.mpr ⟨none _ (by simp), none _ (by simp)⟩, none _ (by simp)⟩

theorem isBare_assetLead : IsBare assetLead :=
  ⟨forall_quotes.mpr ⟨by decide, by decide⟩, by decide⟩

theorem IsBare.lead (bare : IsBare value) : IsBare (assetLead ++ value) where
  unquoted := fun quote isQuote member => (List.mem_append.mp member).elim
    (isBare_assetLead.unquoted quote isQuote) (bare.unquoted quote isQuote)
  unequated := fun member => (List.mem_append.mp member).elim
    isBare_assetLead.unequated bare.unequated

/-- The mark of a source stands nowhere in a source with a bare address but at its start. -/
theorem IsBare.eq_nil_of_mark (bare : IsBare name) (isQuote : other ∈ quotes)
    (split : source other name = front ++ (sourceMark ++ back)) : front = [] := by
  have letters : ∀ quote ∈ quotes, quote ≠ '=' := forall_quotes.mpr ⟨by decide, by decide⟩
  have single : '=' ∉ other :: (name ++ [other]) := by
    simp [bare.unequated, (letters other isQuote).symm]
  have cut : "src".toList ++ '=' :: (other :: (name ++ [other])) =
      (front ++ "src".toList) ++ '=' :: back := by
    rw [List.append_assoc]
    exact split
  have ends := ((List.append_cons_inj_of_notMem (by decide) single).mp cut).1
  exact List.append_left_eq_self.mp ends.symm

/-- A source with a bare address that begins with another source is that source. -/
theorem IsBare.source_inj (bare : IsBare name) (isQuote : other ∈ quotes)
    (equal : source other name = source quote value ++ rest) :
    other = quote ∧ name = value ∧ rest = [] := by
  simp only [source, sourceOpening, List.append_assoc, List.append_cancel_left_eq,
    List.cons_append, List.nil_append, List.cons.injEq] at equal
  obtain ⟨rfl, equal⟩ := equal
  obtain ⟨same, _, nothing⟩ := (List.append_cons_inj_of_notMem
    (bare.unquoted other isQuote) List.not_mem_nil).mp equal
  exact ⟨rfl, same, nothing.symm⟩

/-- No source begins in front of another and ends in it. -/
theorem parted_before_source (bare : IsBare name) (isQuote : other ∈ quotes) :
    Parted (source other name) front (source quote value ++ back) := by
  intro inside outside split _ begins
  by_contra crossing
  rw [not_or] at crossing
  have mark : sourceMark <+: source quote value ++ back := by
    simp only [source, sourceOpening, List.append_assoc]
    exact List.prefix_append _ _
  rcases List.prefix_or_prefix_of_prefix begins mark with short | ⟨more, rfl⟩
  · have ends : outside <:+ sourceOpening other ++ name ++ [other] :=
      ⟨inside, by rw [← split, source, List.append_assoc]⟩
    obtain ⟨before, rfl, _⟩ := (List.suffix_concat_iff.mp ends).resolve_left crossing.2
    exact not_mem_sourceMark other isQuote (short.subset (by simp))
  · exact crossing.1 (bare.eq_nil_of_mark isQuote split)

/-- No source begins in another and ends behind it. -/
theorem parted_behind_source (bare : IsBare name) (isQuote : other ∈ quotes)
    (bareValue : IsBare value) (isValueQuote : quote ∈ quotes) :
    Parted (source other name) (source quote value) back := by
  intro inside outside split ends _
  by_contra crossing
  rw [not_or] at crossing
  have mark : sourceMark <+: source other name := by
    simp only [source, sourceOpening, List.append_assoc]
    exact List.prefix_append _ _
  rcases List.prefix_or_prefix_of_prefix ⟨outside, split.symm⟩ mark with short | ⟨more, rfl⟩
  · have ends : inside <:+ sourceOpening quote ++ value ++ [quote] := by
      rwa [List.append_assoc]
    obtain ⟨before, rfl, _⟩ := (List.suffix_concat_iff.mp ends).resolve_left crossing.1
    exact not_mem_sourceMark quote isValueQuote (short.subset (by simp))
  · obtain ⟨before, whole⟩ := ends
    obtain rfl := bareValue.eq_nil_of_mark isValueQuote whole.symm
    rw [List.nil_append] at whole
    rw [whole] at split
    exact crossing.2 (bare.source_inj isQuote split).2.2

/-- A source is part of another only if it is the same. -/
theorem IsBare.eq_of_inside (bare : IsBare value) (isQuote : quote ∈ quotes)
    (held : source other name <:+: source quote value) : (quote, value) = (other, name) := by
  obtain ⟨before, behind, whole⟩ := held
  have cut : source quote value =
      before ++ (sourceMark ++ ([other] ++ (name ++ [other]) ++ behind)) := by
    rw [← whole]
    simp only [source, sourceOpening, List.append_assoc]
  obtain rfl := bare.eq_nil_of_mark isQuote cut
  obtain ⟨sameQuote, sameValue, _⟩ := bare.source_inj isQuote whole.symm
  rw [sameQuote, sameValue]

/-- The passes that are made for bare names that do not lead out. -/
structure IsBarePass (pass : Char × List Char) : Prop extends IsLinkPass pass where
  bare : IsBare pass.2

/-- A pass changes a source with a bare address apart from what stands around it. -/
theorem IsBarePass.around (isPass : IsBarePass pass) (bare : IsBare value)
    (isQuote : quote ∈ quotes) (front back : List Char) :
    linkPass (front ++ (source quote value ++ back)) pass =
      linkPass front pass ++ (linkPass (source quote value) pass ++ linkPass back pass) := by
  have before : Parted (source pass.1 pass.2) front (source quote value ++ back) :=
    parted_before_source isPass.bare isPass.quoted
  have behind : Parted (source pass.1 pass.2) (source quote value) back :=
    parted_behind_source isPass.bare isPass.quoted bare isQuote
  simp only [linkPass, replaceChars]
  rw [replaceFrom_append before (Nat.zero_le _), replaceFrom_append behind (Nat.zero_le _)]

theorem linkPass_own_source (quote : Char) (value : List Char) :
    linkPass (source quote value) (quote, value) = source quote (assetLead ++ value) := by
  have filled : source quote value ≠ [] := by simp [source, sourceOpening]
  have starts : linkPass (source quote value ++ []) (quote, value) =
      source quote (assetLead ++ value) ++ [] := replaceFrom_of_starts filled
  simpa only [List.append_nil] using starts

theorem linkPass_other_source (bare : IsBare value) (isQuote : quote ∈ quotes)
    (other : (quote, value) ≠ pass) : linkPass (source quote value) pass = source quote value :=
  replaceFrom_of_absent fun held => other (bare.eq_of_inside isQuote held)

theorem foldl_linkPass_of_absent (absent : ∀ pass ∈ passes, ¬source pass.1 pass.2 <:+: text) :
    passes.foldl linkPass text = text := by
  induction passes with
  | nil => rfl
  | cons pass rest ih =>
      obtain ⟨first, later⟩ := List.forall_mem_cons.mp absent
      have kept : linkPass text pass = text := replaceFrom_of_absent first
      rw [List.foldl_cons, kept, ih later]

theorem foldl_linkPass_led_source (arePasses : ∀ pass ∈ passes, IsBarePass pass)
    (bare : IsBare value) (isQuote : quote ∈ quotes) :
    passes.foldl linkPass (source quote (assetLead ++ value)) =
      source quote (assetLead ++ value) := by
  refine foldl_linkPass_of_absent fun pass member held => ?_
  have same := bare.lead.eq_of_inside isQuote held
  exact (arePasses pass member).inside ⟨value, congrArg Prod.snd same⟩

theorem foldl_linkPass_listed_source (arePasses : ∀ pass ∈ passes, IsBarePass pass)
    (bare : IsBare value) (isQuote : quote ∈ quotes) (listed : (quote, value) ∈ passes) :
    passes.foldl linkPass (source quote value) = source quote (assetLead ++ value) := by
  induction passes with
  | nil => cases listed
  | cons pass rest ih =>
      obtain ⟨_, areLater⟩ := List.forall_mem_cons.mp arePasses
      rw [List.foldl_cons]
      by_cases own : (quote, value) = pass
      · subst own
        rw [linkPass_own_source, foldl_linkPass_led_source areLater bare isQuote]
      · rw [linkPass_other_source bare isQuote own,
          ih areLater ((List.mem_cons.mp listed).resolve_left own)]

/-- All passes together, too, change a source with a bare address apart from what stands around
it. -/
theorem foldl_linkPass_around (arePasses : ∀ pass ∈ passes, IsBarePass pass)
    (bare : IsBare value) (isQuote : quote ∈ quotes) (front back : List Char) :
    passes.foldl linkPass (front ++ (source quote value ++ back)) =
      passes.foldl linkPass front ++
        (passes.foldl linkPass (source quote value) ++ passes.foldl linkPass back) := by
  induction passes generalizing front value back with
  | nil => rfl
  | cons pass rest ih =>
      obtain ⟨isPass, areLater⟩ := List.forall_mem_cons.mp arePasses
      simp only [List.foldl_cons]
      rw [isPass.around bare isQuote]
      by_cases own : (quote, value) = pass
      · subst own
        rw [linkPass_own_source, ih areLater bare.lead]
      · rw [linkPass_other_source bare isQuote own, ih areLater bare]

/-- The sources that are listed, with what becomes of them. -/
def linkedSources (names : List String) : List Substitute :=
  names.flatMap fun name => quotes.map fun quote =>
    ⟨sourceAttribute quote name, sourceAttribute quote (assetHref name)⟩

theorem mem_linkedSources {substitute : Substitute} :
    substitute ∈ linkedSources names ↔ ∃ name ∈ names, ∃ quote ∈ quotes,
      substitute = ⟨sourceAttribute quote name, sourceAttribute quote (assetHref name)⟩ := by
  simp [linkedSources, eq_comm]

theorem isBarePass_of_proper (proper : ∀ name ∈ names, isAssetName name = true)
    (bare : ∀ name ∈ names, IsBare name.toList) :
    ∀ pass ∈ linkPasses names, IsBarePass pass := by
  intro pass member
  obtain ⟨_, name, listed, same⟩ := mem_linkPasses.mp member
  exact ⟨isLinkPass_of_proper proper pass member, same ▸ bare name listed⟩

section

variable (proper : ∀ name ∈ names, isAssetName name = true)
  (bare : ∀ name ∈ names, IsBare name.toList)

include proper bare

theorem linkAssets_around {value : String} (bareValue : IsBare value.toList)
    (isQuote : quote ∈ quotes) (front back : String) :
    linkAssets names (front ++ sourceAttribute quote value ++ back) =
      linkAssets names front ++ linkAssets names (sourceAttribute quote value) ++
        linkAssets names back := by
  rw [← String.toList_inj]
  simp only [linkAssets_toList, String.toList_append, sourceAttribute_toList, List.append_assoc]
  exact foldl_linkPass_around (isBarePass_of_proper proper bare) bareValue isQuote _ _

theorem linkAssets_listed_source {name : String} (listed : name ∈ names)
    (isQuote : quote ∈ quotes) :
    linkAssets names (sourceAttribute quote name) = sourceAttribute quote (assetHref name) := by
  have made : (quote, name.toList) ∈ linkPasses names :=
    mem_linkPasses.mpr ⟨isQuote, name, listed, rfl⟩
  rw [← String.toList_inj, linkAssets_toList, sourceAttribute_toList, sourceAttribute_toList,
    assetHref_toList]
  exact foldl_linkPass_listed_source (isBarePass_of_proper proper bare) (bare name listed)
    isQuote made

theorem linkAssets_led_source {name : String} (listed : name ∈ names) (isQuote : quote ∈ quotes) :
    linkAssets names (sourceAttribute quote (assetHref name)) =
      sourceAttribute quote (assetHref name) := by
  rw [← String.toList_inj, linkAssets_toList, sourceAttribute_toList, assetHref_toList]
  exact foldl_linkPass_led_source (isBarePass_of_proper proper bare) (bare name listed) isQuote

theorem linkAssets_substitutes : Substitutes (linkedSources names) (linkAssets names) where
  untouched := by
    intro text absent
    rw [← String.toList_inj, linkAssets_toList]
    refine foldl_linkPass_of_absent fun pass member held => ?_
    obtain ⟨isQuote, name, listed, same⟩ := mem_linkPasses.mp member
    have unheld := absent _ (mem_linkedSources.mpr ⟨name, listed, pass.1, isQuote, rfl⟩)
    rw [← same, ← sourceAttribute_toList, ← contains_iff_inside, unheld] at held
    cases held
  replaced := by
    intro substitute member front back
    obtain ⟨name, listed, quote, isQuote, rfl⟩ := mem_linkedSources.mp member
    rw [linkAssets_around proper bare (bare name listed) isQuote,
      linkAssets_listed_source proper bare listed isQuote]

theorem linkAssets_passes {substitute : Substitute} (member : substitute ∈ linkedSources names)
    (front back : String) :
    linkAssets names (front ++ substitute.replacement ++ back) =
      linkAssets names front ++ substitute.replacement ++ linkAssets names back := by
  obtain ⟨name, listed, quote, isQuote, rfl⟩ := mem_linkedSources.mp member
  have led : IsBare (assetHref name).toList := by
    rw [assetHref_toList]
    exact (bare name listed).lead
  rw [linkAssets_around proper bare led isQuote, linkAssets_led_source proper bare listed isQuote]

end

theorem linkedSources_filled :
    ∀ substitute ∈ linkedSources names, substitute.pattern ≠ "" := by
  intro substitute listed
  obtain ⟨name, _, quote, _, rfl⟩ := mem_linkedSources.mp listed
  simp [sourceAttribute]

theorem linkProperAssets_eq_ok (proper : ∀ name ∈ names, isAssetName name = true)
    (markup : String) : linkProperAssets names markup = .ok (linkAssets names markup) := by
  simp [linkProperAssets, improperAssetName?_eq_none_iff.mpr proper]

/-- Where the names of assets are proper and hold no quote and no equals sign, linking them replaces
every listed source of the markup at once and changes nothing else. Neither the order of the names
nor their repetitions matter, and nothing changes the second time. -/
theorem linked_markup_is_substituted {names : List String}
    (proper : ∀ name ∈ names, isAssetName name = true)
    (bare : ∀ name ∈ names, ∀ c ∈ ['"', '\'', '='], c ∉ name.toList) (markup : String) :
    ∃ linked, linkProperAssets names markup = .ok linked ∧
      (∀ out, Substituted (linkedSources names) markup out ↔ out = linked) ∧
      (∀ others, (∀ name, name ∈ others ↔ name ∈ names) →
        linkProperAssets others markup = .ok linked) ∧
      linkProperAssets names linked = .ok linked := by
  have bareNames : ∀ name ∈ names, IsBare name.toList := fun name listed =>
    isBare_iff.mpr (bare name listed)
  have substitutes := linkAssets_substitutes proper bareNames
  have characterized : ∀ out, Substituted (linkedSources names) markup out ↔
      out = linkAssets names markup := fun out => substitutes.iff linkedSources_filled
  refine ⟨_, linkProperAssets_eq_ok proper markup, characterized, ?_, ?_⟩
  · intro others same
    have properOthers : ∀ name ∈ others, isAssetName name = true := fun name listed =>
      proper name ((same name).mp listed)
    have bareOthers : ∀ name ∈ others, IsBare name.toList := fun name listed =>
      bareNames name ((same name).mp listed)
    have substituted := (linkAssets_substitutes properOthers bareOthers).substituted
      linkedSources_filled markup
    have alike : ∀ substitute, substitute ∈ linkedSources others ↔
        substitute ∈ linkedSources names := by
      intro substitute
      simp only [mem_linkedSources, same]
    rw [linkProperAssets_eq_ok properOthers,
      (characterized _).mp (substituted.congr alike)]
  · rw [linkProperAssets_eq_ok proper]
    exact congrArg Except.ok (substitutes.twice (fun _ => linkAssets_passes proper bareNames)
      ((characterized _).mpr rfl))

/-- A source in each kind of quotes, one of a name that another starts with, and one that is not
listed. -/
def atlas : String :=
  "<img src=\"map.png\"/><img src='map.png'/><a src=\"map\"/><img src=\"sea.png\"/>"

theorem atlas_linked :
    linkAssets ["map", "map.png"] atlas =
      "<img src=\"../assets/map.png\"/><img src='../assets/map.png'/>" ++
        "<a src=\"../assets/map\"/><img src=\"sea.png\"/>" := by
  rw [← String.toList_inj, linkAssets_toList]
  decide +kernel

theorem atlas_linked_at_once :
    ∃ linked, linkProperAssets ["map", "map.png"] atlas = .ok linked ∧
      linked = "<img src=\"../assets/map.png\"/><img src='../assets/map.png'/>" ++
        "<a src=\"../assets/map\"/><img src=\"sea.png\"/>" ∧
      Substituted (linkedSources ["map", "map.png"]) atlas linked ∧
      linkProperAssets ["map.png", "map", "map.png"] atlas = .ok linked ∧
      linkProperAssets ["map", "map.png"] linked = .ok linked := by
  have proper : ∀ name ∈ ["map", "map.png"], isAssetName name = true := by decide
  have bare : ∀ name ∈ ["map", "map.png"], ∀ c ∈ ['"', '\'', '='], c ∉ name.toList := by
    simp only [List.forall_mem_cons, List.not_mem_nil, false_implies, implies_true, and_true]
    decide
  obtain ⟨linked, ok, characterized, alike, twice⟩ :=
    linked_markup_is_substituted proper bare atlas
  have made := Except.ok.inj (ok.symm.trans (linkProperAssets_eq_ok proper atlas))
  exact ⟨linked, ok, made.trans atlas_linked, (characterized linked).mpr rfl,
    alike _ (by simp), twice⟩

end QuizPackage
