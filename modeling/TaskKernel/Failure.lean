import TaskKernel.Thread.State
import TaskKernel.SystemError
import TaskKernel.Text.Quoted

/-!
Why operations are refused. A `Failure` is a cause met in an operation; a `Report` is its wording.
-/
namespace TaskKernel

inductive FailureKind
  | invalidState
  | badValue
  | osFailure
  | selfDeadlock
deriving DecidableEq

namespace FailureKind

def text : FailureKind → String
  | invalidState => "INVALID_STATE"
  | badValue => "BAD_VALUE"
  | osFailure => "OS_FAILURE"
  | selfDeadlock => "SELF_DEADLOCK"

def name : FailureKind → String
  | invalidState => "InvalidState"
  | badValue => "BadValue"
  | osFailure => "OsFailure"
  | selfDeadlock => "SelfDeadlock"

end FailureKind

/-- A failure in words. -/
structure Report where
  kind : FailureKind
  operation : String
  message : String
  code : Option Int
deriving DecidableEq

namespace Report

/-- One line for people. -/
def text (report : Report) : String :=
  report.kind.text ++ ": " ++ report.message ++ " (" ++ report.operation ++ ")" ++
    match report.code with
    | some code => ": " ++ SystemError.describe code
    | none => ""

/-- All fields by name. -/
def describe (report : Report) : String :=
  "ThreadError \x7b kind: " ++ report.kind.name ++ ", op: " ++ Text.quoted report.operation ++
    ", message: " ++ Text.quoted report.message ++ ", os_error: " ++
    (match report.code with
      | some code => "Some(" ++ toString code ++ ")"
      | none => "None") ++ " \x7d"

end Report

/-- The operations that can be refused. `named` is one of an embedding program. -/
inductive Operation
  | threadBuild
  | threadStart
  | threadStartUndetached
  | threadJoin
  | threadSetPriority
  | conditionWait
  | conditionWaitUntil
  | semaphoreNew
  | semaphorePost
  | queuePush
  | queuePushAndWait
  | setConfig
  | taskNew
  | taskWait
  | taskRequest
  | taskAddTimer
  | taskAddTimerWith
  | contextAddTimer
  | contextAddTimerWith
  | named (name : String)
deriving DecidableEq

namespace Operation

def text : Operation → String
  | threadBuild => "ThreadBuilder::build"
  | threadStart => "Thread::start"
  | threadStartUndetached => "Thread::start_undetached"
  | threadJoin => "Thread::join"
  | threadSetPriority => "Thread::set_priority"
  | conditionWait => "Condition::wait"
  | conditionWaitUntil => "Condition::wait_until"
  | semaphoreNew => "Semaphore::new"
  | semaphorePost => "Semaphore::post"
  | queuePush => "MessageQueue::push"
  | queuePushAndWait => "MessageQueue::push_and_wait"
  | setConfig => "set_runtime_config"
  | taskNew => "Task::new"
  | taskWait => "TaskSender::wait_msg"
  | taskRequest => "TaskSender::request"
  | taskAddTimer => "Task::add_timer"
  | taskAddTimerWith => "Task::add_timer_with"
  | contextAddTimer => "TaskContext::add_timer"
  | contextAddTimerWith => "TaskContext::add_timer_with"
  | named name => name

end Operation

/-- What is wrong with a configuration. -/
inductive ConfigFault
  | stackTooSmall
  | emptyNameStem
  | backoffTooLong
deriving DecidableEq

namespace ConfigFault

def reason : ConfigFault → String
  | stackTooSmall => "stack_size must be 0 or at least 16 KiB"
  | emptyNameStem => "thread_prefix must not be empty"
  | backoffTooLong => "lock_backoff must not exceed 100ms"

end ConfigFault

inductive Fault
  | notNew (thread : ThreadHandle) (state : LifeState)
  | notRunning (thread : ThreadHandle) (state : LifeState)
  | bodyLost
  | cannotCreate (code : Int)
  | detached
  | stackTooSmall (bytes least : Nat)
  | foreignGuard
  | heldDepth (depth : Nat)
  | initialTooLarge (count most : Nat)
  | countOverflow
  | queueClosed
  | invalidConfig (fault : ConfigFault)
  | configFixed
  | zeroInterval
  | ownQueue (task : ThreadHandle)
  | settingTooSmall (setting : String)
deriving DecidableEq

namespace Fault

def kind : Fault → FailureKind
  | notNew .. | notRunning .. | bodyLost | detached | foreignGuard | heldDepth .. | queueClosed |
    configFixed => .invalidState
  | cannotCreate .. => .osFailure
  | ownQueue .. => .selfDeadlock
  | stackTooSmall .. | initialTooLarge .. | countOverflow | invalidConfig .. | zeroInterval |
    settingTooSmall .. => .badValue

def code : Fault → Option Int
  | cannotCreate code => some code
  | _ => none

def message : Fault → String
  | notNew thread state => "thread " ++ thread.text ++ " is " ++ state.text ++ ", expected NEW"
  | notRunning thread state => "thread " ++ thread.text ++ " is " ++ state.text ++ ", expected RUNNING"
  | bodyLost => "thread body lost by an earlier failed start"
  | cannotCreate code => "thread creation failed: " ++ SystemError.describe code
  | detached => "detached threads cannot be joined"
  | stackTooSmall bytes least => "stack size " ++ toString bytes ++ " below minimum " ++ toString least
  | foreignGuard => "guard belongs to a different mutex"
  | heldDepth depth => "mutex held " ++ toString depth ++ " times; waiting requires exactly one"
  | initialTooLarge count most => "initial count " ++ toString count ++ " exceeds " ++ toString most
  | countOverflow => "semaphore count overflow"
  | queueClosed => "queue is closed"
  | invalidConfig fault => fault.reason
  | configFixed => "runtime configuration already initialized"
  | zeroInterval => "timer interval must be non-zero"
  | ownQueue task => "task " ++ task.text ++ " cannot wait on its own queue"
  | settingTooSmall setting => setting ++ " must be at least 1"

end Fault

structure Failure where
  fault : Fault
  operation : Operation
deriving DecidableEq

namespace Failure

def kind (failure : Failure) : FailureKind := failure.fault.kind

def report (failure : Failure) : Report :=
  ⟨failure.kind, failure.operation.text, failure.fault.message, failure.fault.code⟩

def text (failure : Failure) : String := failure.report.text

end Failure

end TaskKernel
