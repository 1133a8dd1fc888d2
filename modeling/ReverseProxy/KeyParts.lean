import ReverseProxy.CacheKey

/-! What a cache key says about the request it was built from. The method and the
partition can always be read back. Host, URL and vary values are not escaped, so
they can only be told apart where the text of one part does not hold the separator
that ends it. -/
namespace ReverseProxy.KeyParts
open GoValues FiniteMap ListText CacheKey
open PolicyBuild (CachePolicy)

def pathOf (r : Request) : Bytes := if r.path = [] then [0x2F] else r.path

def varyValue (h : Header) (name : String) : Bytes := joinComma ((h.values (encodeText name)).map trimBytes)

def varied (runes : RuneTables) (policy : CachePolicy) : List String :=
  policy.varyHeaders.filter (fun name => varyName runes name ≠ [])

structure SameParts (runes : RuneTables) (text : TextTables) (policy : CachePolicy) (r s : Request) : Prop where
  method : text.upper r.method = text.upper s.method
  host : text.lower r.host = text.lower s.host
  path : pathOf r = pathOf s
  query : r.rawQuery = s.rawQuery
  vary : ∀ name ∈ varied runes policy, varyValue r.header name = varyValue s.header name

def varyMark (runes : RuneTables) (name : String) : Bytes := [0x7C,0x76,0x3D] ++ varyName runes name ++ [0x3A]

def Marked (runes : RuneTables) (h : Header) : Bytes → List String → Prop
  | _,[] => True
  | part,name :: rest => EndsFirst (varyMark runes name) part ∧ Marked runes h (varyValue h name) rest

/- Every part is free of the separator that ends it. A '?' that starts the path, or
ends a URL without query, separates nothing. -/
structure Delimited (runes : RuneTables) (text : TextTables) (policy : CachePolicy) (r : Request) : Prop where
  host : ¬[0x7C,0x75,0x3D] <:+: text.lower r.host
  path : ∀ front back, r.path = front ++ 0x3F :: back → front = [] ∨ back = [] ∧ r.rawQuery = []
  parts : Marked runes r.header (urlPart r.path r.rawQuery) (varied runes policy)

def writtenVary (runes : RuneTables) (names : List String) (h : Header) : Bytes :=
  names.flatMap (fun name => varyMark runes name ++ varyValue h name)

def body (runes : RuneTables) (text : TextTables) (policy : CachePolicy) (r : Request) : Bytes :=
  text.lower r.host ++ 0x7C :: ([0x75,0x3D] ++ (urlPart r.path r.rawQuery ++ writtenVary runes (varied runes policy) r.header))

theorem writtenVaryCons (runes : RuneTables) (name : String) (rest : List String) (h : Header) :
    writtenVary runes (name :: rest) h = varyMark runes name ++ (varyValue h name ++ writtenVary runes rest h) := by
  simp only [writtenVary,List.flatMap_cons,List.append_assoc]

theorem trimValuesSame (h : Header) (name : Bytes) (other : Bytes) :
    ((trimValues h name).values other).map trimBytes = (h.values other).map trimBytes := by
  unfold trimValues Header.values
  cases found : h.get (canonicalKey name) with
  | none => rfl
  | some values =>
    dsimp only
    rw [Map.getInsert]
    split
    · rename_i same
      rw [same,found]
      simp [trimBytesTwice]
    · rfl

theorem trimValuesOwn (h : Header) (name : Bytes) :
    (trimValues h name).values name = (h.values name).map trimBytes := by
  unfold trimValues Header.values
  cases found : h.get (canonicalKey name) with
  | none => simp [found]
  | some values => simp

theorem varyValueTrimmed (h : Header) (name other : String) :
    varyValue (trimValues h (encodeText name)) other = varyValue h other := by
  unfold varyValue
  rw [trimValuesSame]

theorem writeVaryText (runes : RuneTables) (names : List String) (h : Header) :
    (writeVary runes names h).1 = writtenVary runes (names.filter (fun name => varyName runes name ≠ [])) h := by
  induction names generalizing h with
  | nil => rfl
  | cons name rest ih =>
    by_cases blank : varyName runes name = []
    · rw [writeVary,if_pos blank,ih,List.filter_cons_of_neg (by simp [blank])]
    · rw [writeVary,if_neg blank,List.filter_cons_of_pos (by simp [blank])]
      have own : varyPart runes (trimValues h (encodeText name)) name =
          varyMark runes name ++ varyValue h name := by
        unfold varyPart varyMark varyValue
        rw [trimValuesOwn]
      have later : writtenVary runes (rest.filter (fun name => varyName runes name ≠ [])) (trimValues h (encodeText name)) =
          writtenVary runes (rest.filter (fun name => varyName runes name ≠ [])) h := by
        unfold writtenVary
        simp only [varyValueTrimmed]
      dsimp only
      rw [own,ih,later,writtenVaryCons,List.append_assoc]

theorem authTrimmed (h : Header) (name : Bytes) : authOf (trimValues h name) = authOf h := by
  have first : ∀ g : Header, authOf g = ((g.values authorization).map trimBytes).headD (trimBytes []) := by
    intro g
    unfold authOf Header.first
    cases g.values authorization <;> rfl
  rw [first,first,trimValuesSame]

theorem authWritten (runes : RuneTables) (names : List String) (h : Header) :
    authOf (writeVary runes names h).2 = authOf h := by
  induction names generalizing h with
  | nil => rfl
  | cons name rest ih =>
    unfold writeVary
    split
    · exact ih h
    · exact (ih _).trans (authTrimmed h _)

section
variable {runes : RuneTables} {text : TextTables} {sha256 : Bytes → Bytes} {policy : CachePolicy} {r s : Request}

theorem keyShape : (buildKey runes text sha256 policy r).1 =
    [0x6D,0x3D] ++ ((text.upper r.method ++ [0x7C]) ++ 0x68 :: (0x3D :: (body runes text policy r ++ 0x7C ::
      ([0x70,0x3D] ++ cachePartition sha256 policy (buildKey runes text sha256 policy r).2.header)))) := by
  unfold buildKey body varied
  rw [← writeVaryText]
  simp

theorem partitionBuilt : cachePartition sha256 policy (buildKey runes text sha256 policy r).2.header =
    cachePartition sha256 policy r.header := by
  have auth : authOf (buildKey runes text sha256 policy r).2.header = authOf r.header := authWritten ..
  unfold cachePartition
  rw [auth]

/- No upper-cased method holds an 'h' and no partition a '|'. -/
theorem keyDecides : (buildKey runes text sha256 policy r).1 = (buildKey runes text sha256 policy s).1 ↔
    text.upper r.method = text.upper s.method ∧ body runes text policy r = body runes text policy s ∧
      cachePartition sha256 policy r.header = cachePartition sha256 policy s.header := by
  have methodMark : ∀ m : Bytes, (0x68 : UInt8) ∉ text.upper m ++ [0x7C] := by
    intro m member
    rcases List.mem_append.mp member with inside | bar
    · exact text.upperCase m inside
    · revert bar
      decide
  rw [keyShape,keyShape,partitionBuilt,partitionBuilt]
  constructor
  · intro same
    obtain ⟨methods,rest⟩ := firstMark (List.append_cancel_left same) (methodMark _) (methodMark _)
    obtain ⟨bodies,ends⟩ := lastMark (List.cons.inj rest).2 (endMark _ _ _) (endMark _ _ _)
    exact ⟨List.append_cancel_right methods,bodies,List.append_cancel_left ends⟩
  · rintro ⟨method,bodies,partition⟩
    rw [method,bodies,partition]

def queryPart (r : Request) : Bytes := if r.rawQuery = [] then [] else 0x3F :: r.rawQuery

theorem urlPartSplit (r : Request) : urlPart r.path r.rawQuery = pathOf r ++ queryPart r := rfl

theorem queryPartInj (same : queryPart r = queryPart s) : r.rawQuery = s.rawQuery := by
  unfold queryPart at same
  by_cases left : r.rawQuery = []
  · by_cases right : s.rawQuery = []
    · rw [left,right]
    · rw [if_pos left,if_neg right] at same
      cases same
  · by_cases right : s.rawQuery = []
    · rw [if_neg left,if_pos right] at same
      cases same
    · rw [if_neg left,if_neg right] at same
      exact (List.cons.inj same).2

theorem pathCut {front back : Bytes} (delimited : Delimited runes text policy r)
    (cut : pathOf r = front ++ 0x3F :: back) (some_ : front ≠ []) : back = [] ∧ r.rawQuery = [] := by
  unfold pathOf at cut
  split at cut
  · have member : (0x3F : UInt8) ∈ [0x2F] := by rw [cut]; simp
    exact absurd member (by decide)
  · exact (delimited.path front back cut).resolve_left some_

theorem pathNonempty (r : Request) : pathOf r ≠ [] := by
  unfold pathOf
  split
  · simp
  · assumption

theorem urlCut {t : Bytes} (delimited : Delimited runes text policy s) (longer : pathOf s = pathOf r ++ t)
    (rest : queryPart r = t ++ queryPart s) : t = [] := by
  cases t with
  | nil => rfl
  | cons d back =>
    unfold queryPart at rest
    split at rest
    · cases rest
    · rename_i asked
      obtain ⟨rfl,query⟩ := List.cons.inj rest
      obtain ⟨rfl,none⟩ := pathCut delimited longer (pathNonempty r)
      rw [if_pos none] at query
      exact absurd query asked

theorem urlDelimited (left : Delimited runes text policy r) (right : Delimited runes text policy s)
    (same : urlPart r.path r.rawQuery = urlPart s.path s.rawQuery) : pathOf r = pathOf s ∧ r.rawQuery = s.rawQuery := by
  rw [urlPartSplit,urlPartSplit] at same
  have path : pathOf r = pathOf s := by
    rcases List.append_eq_append_iff.mp same with ⟨t,longer,rest⟩ | ⟨t,longer,rest⟩
    · rw [longer,urlCut right longer rest,List.append_nil]
    · rw [longer,urlCut left longer rest,List.append_nil]
  rw [path] at same
  exact ⟨path,queryPartInj (List.append_cancel_left same)⟩

theorem varyDelimited {names : List String} {g h : Header} {x y : Bytes} (left : Marked runes g x names)
    (right : Marked runes h y names) (same : x ++ writtenVary runes names g = y ++ writtenVary runes names h) :
    x = y ∧ ∀ name ∈ names, varyValue g name = varyValue h name := by
  induction names generalizing x y with
  | nil =>
    refine ⟨by simpa [writtenVary] using same,?_⟩
    intro name member
    cases member
  | cons first rest ih =>
    rw [writtenVaryCons,writtenVaryCons] at same
    obtain ⟨start,later⟩ := firstWord same left.1 right.1
    obtain ⟨value,others⟩ := ih left.2 right.2 later
    refine ⟨start,?_⟩
    intro name member
    rcases List.mem_cons.mp member with rfl | inside
    · exact value
    · exact others name inside

theorem partsDelimited (same : (buildKey runes text sha256 policy r).1 = (buildKey runes text sha256 policy s).1)
    (left : Delimited runes text policy r) (right : Delimited runes text policy s) :
    SameParts runes text policy r s := by
  obtain ⟨method,bodies,-⟩ := keyDecides.mp same
  have hostMark : (0x7C : UInt8) ∉ [0x75,0x3D] := by decide
  obtain ⟨host,rest⟩ := @firstWord UInt8 [0x7C,0x75,0x3D] _ _ _ _ bodies (endsFirstFree hostMark left.host)
    (endsFirstFree hostMark right.host)
  obtain ⟨url,vary⟩ := varyDelimited left.parts right.parts rest
  obtain ⟨path,query⟩ := urlDelimited left right url
  exact ⟨method,host,path,query,vary⟩

theorem partsSpelled (parts : SameParts runes text policy r s) : body runes text policy r = body runes text policy s := by
  have url : urlPart r.path r.rawQuery = urlPart s.path s.rawQuery := by
    rw [urlPartSplit, urlPartSplit, parts.path]
    unfold queryPart
    rw [parts.query]
  have vary : writtenVary runes (varied runes policy) r.header = writtenVary runes (varied runes policy) s.header := by
    unfold writtenVary
    refine List.flatMap_congr fun name member => ?_
    rw [parts.vary name member]
  unfold body
  rw [parts.host, url, vary]

theorem keyInjective (sha256 : Bytes → Bytes) (left : Delimited runes text policy r) (right : Delimited runes text policy s) :
    (buildKey runes text sha256 policy r).1 = (buildKey runes text sha256 policy s).1 ↔
      SameParts runes text policy r s ∧ cachePartition sha256 policy r.header = cachePartition sha256 policy s.header := by
  constructor
  · intro same
    exact ⟨partsDelimited same left right,(keyDecides.mp same).2.2⟩
  · rintro ⟨parts,partition⟩
    exact keyDecides.mpr ⟨parts.method,partsSpelled parts,partition⟩

/- A '?' inside the path is read as the one before the query. -/
theorem questionMarkCollides (sha256 : Bytes → Bytes) {front back : Bytes} (cut : r.path = front ++ 0x3F :: back)
    (some_ : front ≠ []) (more : ¬(back = [] ∧ r.rawQuery = [])) :
    ∃ path query, (buildKey runes text sha256 policy r).1 =
        (buildKey runes text sha256 policy { r with path := path, rawQuery := query }).1 ∧
      ¬SameParts runes text policy r { r with path := path, rawQuery := query } := by
  have whole : r.path ≠ [] := by
    rw [cut]
    simp
  have asked : back ++ queryPart r ≠ [] := by
    intro none_
    obtain ⟨first,second⟩ := List.append_eq_nil_iff.mp none_
    refine more ⟨first,?_⟩
    by_contra query
    rw [queryPart, if_neg query] at second
    cases second
  have url : urlPart r.path r.rawQuery = urlPart front (back ++ queryPart r) := by
    unfold urlPart
    rw [if_neg whole, if_neg some_, if_neg asked, cut]
    change front ++ 0x3F :: back ++ queryPart r = front ++ 0x3F :: (back ++ queryPart r)
    simp
  refine ⟨front,back ++ queryPart r,keyDecides.mpr ⟨rfl,?_,rfl⟩,fun parts => ?_⟩
  · unfold body
    rw [url]
  · have path := parts.path
    unfold pathOf at path
    dsimp only at path
    rw [if_neg whole, if_neg some_, cut] at path
    have lengths := congrArg List.length path
    simp at lengths

def noVary : CachePolicy := ⟨true,true,minute,0,[],false,0,false⟩

def getRequest (method path query : String) : Request :=
  ⟨encodeText method,encodeText "h",encodeText path,encodeText query,Map.empty⟩

theorem escapedQuestionMarkCollides :
    (buildKey RuneTables.ascii TextTables.ascii id noVary (getRequest "GET" "/a?b" "")).1 =
      (buildKey RuneTables.ascii TextTables.ascii id noVary (getRequest "GET" "/a" "b")).1 ∧
    ¬SameParts RuneTables.ascii TextTables.ascii noVary (getRequest "GET" "/a?b" "") (getRequest "GET" "/a" "b") := by
  refine ⟨by decide,?_⟩
  intro parts
  exact absurd parts.query (by decide)

def twoVary : CachePolicy := { noVary with varyHeaders := ["Accept"," ","X-Lang"] }

def spelled (method host path : String) (accept : List String) : Request :=
  { method := encodeText method
    host := encodeText host
    path := encodeText path
    rawQuery := encodeText "q=1?"
    header := (Map.empty.insert (encodeText "Accept") (accept.map encodeText)).insert (encodeText "X-Lang") [encodeText "en"] }

theorem spelledDelimited {method host path : String} {accept : List String}
    (free : ¬[0x7C,0x75,0x3D] <:+: TextTables.ascii.lower (encodeText host)) (plain : (0x3F : UInt8) ∉ encodeText path)
    (url : ¬varyMark RuneTables.ascii "Accept" <:+: urlPart (encodeText path) (encodeText "q=1?"))
    (value : ¬varyMark RuneTables.ascii "X-Lang" <:+: varyValue (spelled method host path accept).header "Accept") :
    Delimited RuneTables.ascii TextTables.ascii twoVary (spelled method host path accept) := by
  refine ⟨free,fun front back cut => ?_,endsFirstFree (by decide) url,endsFirstFree (by decide) value,trivial⟩
  exact absurd (show encodeText path = front ++ 0x3F :: back from cut) (fun same => plain (by rw [same]; simp))

theorem spellingsShareKey :
    (buildKey RuneTables.ascii TextTables.ascii id twoVary (spelled "get" "H" "" [" gzip","br "])).1 =
      (buildKey RuneTables.ascii TextTables.ascii id twoVary (spelled "GET" "h" "/" ["gzip","br"])).1 ∧
    SameParts RuneTables.ascii TextTables.ascii twoVary (spelled "get" "H" "" [" gzip","br "])
      (spelled "GET" "h" "/" ["gzip","br"]) := by
  have same : (buildKey RuneTables.ascii TextTables.ascii id twoVary (spelled "get" "H" "" [" gzip","br "])).1 =
      (buildKey RuneTables.ascii TextTables.ascii id twoVary (spelled "GET" "h" "/" ["gzip","br"])).1 := by decide
  have left := @spelledDelimited "get" "H" "" [" gzip","br "] (by decide) (by decide) (by decide) (by decide)
  have right := @spelledDelimited "GET" "h" "/" ["gzip","br"] (by decide) (by decide) (by decide) (by decide)
  exact ⟨same,((keyInjective id left right).mp same).1⟩

end
end ReverseProxy.KeyParts
