namespace ChatGateway

/-! Why an operation on a file or a socket failed. -/

inductive SystemFault where
  | notFound
  | alreadyExists
  | notADirectory
  | isADirectory
  /-- The content is not UTF-8. -/
  | notText
  | addressInUse
  | other (message : String)
  deriving DecidableEq, Inhabited

namespace SystemFault

def numbered (text : String) (number : Nat) : String :=
  text ++ " (os error " ++ toString number ++ ")"

def message : SystemFault → String
  | notFound => numbered "No such file or directory" 2
  | alreadyExists => numbered "File exists" 17
  | notADirectory => numbered "Not a directory" 20
  | isADirectory => numbered "Is a directory" 21
  | notText => "stream did not contain valid UTF-8"
  | addressInUse => numbered "Address already in use" 98
  | other message => message

/-- The fault of a number of the system, with the system's words for it. -/
def ofNumber (number : Nat) (words : String) : SystemFault :=
  match number with
  | 2 => notFound
  | 17 => alreadyExists
  | 20 => notADirectory
  | 21 => isADirectory
  | 98 => addressInUse
  | _ => other (numbered words number)

def kind : SystemFault → String
  | notFound => "NotFound"
  | alreadyExists => "AlreadyExists"
  | notADirectory => "NotADirectory"
  | isADirectory => "IsADirectory"
  | notText => "InvalidData"
  | addressInUse => "AddrInUse"
  | other _ => "Other"

end SystemFault

end ChatGateway
