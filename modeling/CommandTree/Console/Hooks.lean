import CommandTree.Console.World
import CommandTree.Event.Record
import CommandTree.Handler

namespace CommandTree.Console

def responding (w : World) (response : Response) : BodyResult World :=
  ⟨w, [], response⟩

def intParameter : Parameter := ⟨.int, false⟩

def textParameter : Parameter := ⟨.string, false⟩

def flagParameter : Parameter := ⟨.boolean, false⟩

def intText (n : Int32) : String :=
  toString n.toInt

def longText (n : Int64) : String :=
  toString n.toInt

def givenRecord (giver target : String) (amount : Int32) : Record :=
  ⟨.info, "quill_console", "Coins given",
    [.plain "from" giver, .plain "to" target, .plain "amount" (intText amount)]⟩

def giveTo (actor : Actor) (amount : Int32) (target : String) (isSilent : Bool) (w : World) :
    BodyResult World :=
  let after := w.deposit target amount
  let text := "Gave " ++ intText amount ++ " coins to " ++ target ++ " (now "
    ++ longText (after.balance target) ++ ")"
  ⟨after, [.noted (givenRecord actor.name target amount)],
    if isSilent then .nothing else .text text⟩

def giveAll (amount : Int32) (w : World) : BodyResult World :=
  responding (w.online.foldl (fun w player => w.deposit player amount) w)
    (.text ("Gave " ++ intText amount ++ " coins to " ++ toString w.online.length ++ " players"))

def showBalance (player : String) (w : World) : BodyResult World :=
  responding w (.text (player ++ " has " ++ longText (w.balance player) ++ " coins"))

def listWarps (w : World) : BodyResult World :=
  responding w
    (.text (if w.warps.isEmpty then "No warps saved" else ", ".intercalate (w.warps.map (·.1))))

def setWarp (actor : Actor) (name : String) (w : World) : BodyResult World :=
  let here := w.location actor.name
  responding { w with warps := World.put name here w.warps }
    (.text ("Saved warp " ++ name ++ " at " ++ here))

def goToWarp (actor : Actor) (name : String) (w : World) : BodyResult World :=
  match w.warps.lookup name with
  | none => responding w (.failure ("unknown warp " ++ name))
  | some target =>
      responding { w with locations := World.put actor.name target w.locations }
        (.text ("Warped to " ++ name ++ " (" ++ target ++ ")"))

def say (actor : Actor) (message : String) (w : World) : BodyResult World :=
  responding w (.text ("[" ++ actor.name ++ "] " ++ message))

def switchTo (player : String) (w : World) : BodyResult World :=
  responding { w with switchTo := some player } .nothing

def textHandler (body : Actor → String → World → BodyResult World) : Handler World :=
  Handler.typed [textParameter] fun actor values w =>
    match values with
    | [some (.string s)] => body actor s w
    | _ => responding w .nothing

def hooks : List (String × Handler World) :=
  [("give",
      Handler.typed [intParameter, textParameter, flagParameter] fun actor values w =>
        match values with
        | [some (.int amount), some (.string target), some (.boolean isSilent)] =>
            giveTo actor amount target isSilent w
        | _ => responding w .nothing),
    ("give_all",
      Handler.typed [intParameter] fun _ values w =>
        match values with
        | [some (.int amount)] => giveAll amount w
        | _ => responding w .nothing),
    ("balance", textHandler fun _ player w => showBalance player w),
    ("warp_list", Handler.typed [] fun _ _ w => listWarps w),
    ("warp_set", textHandler setWarp),
    ("warp_go", textHandler goToWarp),
    ("say", textHandler say),
    ("switch", textHandler fun _ player w => switchTo player w)]

end CommandTree.Console
