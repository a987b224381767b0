/-!
# Broker fault codes

The numeric codes of the broker client: negative codes are raised by the client itself,
positive ones are reported by a broker, and `0` means success. `describe` gives each known
code its fixed text; every other number reads "Unknown error code".
-/

namespace BrokerSession

namespace Code

def badMsg : Int := -199
def destroy : Int := -197
def fail : Int := -196
def transport : Int := -195
def resolve : Int := -193
def msgTimedOut : Int := -192
def partitionEof : Int := -191
def unknownPartition : Int := -190
def unknownTopic : Int := -188
def allBrokersDown : Int := -187
def invalidArg : Int := -186
def timedOut : Int := -185
def queueFull : Int := -184
def ssl : Int := -181
def waitCoord : Int := -180
def unknownGroup : Int := -179
def inProgress : Int := -178
def assignPartitions : Int := -175
def revokePartitions : Int := -174
def wrongState : Int := -172
def notImplemented : Int := -170
def authentication : Int := -169
def noOffset : Int := -168
def timedOutQueue : Int := -166
def fatal : Int := -150
def maxPollExceeded : Int := -147
def fenced : Int := -144
def assignmentLost : Int := -142
def unknown : Int := -1
def noError : Int := 0
def offsetOutOfRange : Int := 1
def unknownTopicOrPart : Int := 3
def leaderNotAvailable : Int := 5
def notLeaderForPartition : Int := 6
def requestTimedOut : Int := 7
def brokerNotAvailable : Int := 8
def msgSizeTooLarge : Int := 10
def networkException : Int := 13
def coordinatorLoadInProgress : Int := 14
def coordinatorNotAvailable : Int := 15
def notCoordinator : Int := 16
def illegalGeneration : Int := 22
def unknownMemberId : Int := 25
def rebalanceInProgress : Int := 27
def topicAuthorizationFailed : Int := 29
def groupAuthorizationFailed : Int := 30

/-- Every known code with its text. -/
def descriptions : List (Int × String) :=
  [ (badMsg, "Local: Bad message format"),
    (destroy, "Local: Broker handle destroyed"),
    (fail, "Local: Communication failure with broker"),
    (transport, "Local: Broker transport failure"),
    (resolve, "Local: Host resolution failure"),
    (msgTimedOut, "Local: Message timed out"),
    (partitionEof, "Broker: No more messages"),
    (unknownPartition, "Local: Unknown partition"),
    (unknownTopic, "Local: Unknown topic"),
    (allBrokersDown, "Local: All broker connections are down"),
    (invalidArg, "Local: Invalid argument or configuration"),
    (timedOut, "Local: Timed out"),
    (queueFull, "Local: Queue full"),
    (ssl, "Local: SSL error"),
    (waitCoord, "Local: Waiting for coordinator"),
    (unknownGroup, "Local: Unknown group"),
    (inProgress, "Local: Operation in progress"),
    (assignPartitions, "Local: Assign partitions"),
    (revokePartitions, "Local: Revoke partitions"),
    (wrongState, "Local: Erroneous state"),
    (notImplemented, "Local: Not implemented"),
    (authentication, "Local: Authentication failure"),
    (noOffset, "Local: No offset stored"),
    (timedOutQueue, "Local: Timed out in queue"),
    (fatal, "Local: Fatal error"),
    (maxPollExceeded,
      "Local: Maximum application poll interval (max.poll.interval.ms) exceeded"),
    (fenced, "Local: This instance has been fenced by a newer instance"),
    (assignmentLost, "Local: Group partition assignment lost"),
    (unknown, "Unknown broker error"),
    (noError, "Success"),
    (offsetOutOfRange, "Broker: Offset out of range"),
    (unknownTopicOrPart, "Broker: Unknown topic or partition"),
    (leaderNotAvailable, "Broker: Leader not available"),
    (notLeaderForPartition, "Broker: Not leader for partition"),
    (requestTimedOut, "Broker: Request timed out"),
    (brokerNotAvailable, "Broker: Broker not available"),
    (msgSizeTooLarge, "Broker: Message size too large"),
    (networkException, "Broker: Broker disconnected before response received"),
    (coordinatorLoadInProgress, "Broker: Coordinator load in progress"),
    (coordinatorNotAvailable, "Broker: Coordinator not available"),
    (notCoordinator, "Broker: Not coordinator"),
    (illegalGeneration, "Broker: Specified group generation id is not valid"),
    (unknownMemberId, "Broker: Unknown member"),
    (rebalanceInProgress, "Broker: Group rebalance in progress"),
    (topicAuthorizationFailed, "Broker: Topic authorization failed"),
    (groupAuthorizationFailed, "Broker: Group authorization failed") ]

/-- The fixed text of a code; "Unknown error code" for a number no code has. -/
def describe (code : Int) : String :=
  ((descriptions.find? (·.1 == code)).map (·.2)).getD "Unknown error code"

end Code

end BrokerSession
