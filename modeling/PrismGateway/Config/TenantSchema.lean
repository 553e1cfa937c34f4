import PrismGateway.Lib.Schema

namespace PrismGateway.Config.Schemas

open Lib

def req (name : String) (s : Schema) : Tag × Schema := ({ name := name },s)

def opt (name : String) (s : Schema) : Tag × Schema := ({ name := name,omitempty := true },s)

def dash (s : Schema) : Tag × Schema := ({ name := "-",dash := true },s)

def fields : List (Tag × Schema) → Fields
  | [] => .nil
  | f :: rest => .cons f.1 f.2 (fields rest)

def record (l : List (Tag × Schema)) : Schema := .struct [] (fields l)

def list (s : Schema) : Schema := .ptr (.slice s)

def table (s : Schema) : Schema := .ptr (.dict s)

def fallbackConfig : Schema := record
  [req "enabled" .bool,req "timeout_ms" .int,req "max_attempts" .int]

def smartWeights : Schema := record
  [req "cost" .float,req "latency" .float,req "errors" .float]

def promptLengthCondition : Schema := record
  [opt "gt" (.ptr .int),opt "gte" (.ptr .int),opt "lt" (.ptr .int),opt "lte" (.ptr .int)]

def semanticSimilarityCondition : Schema := record [req "threshold" .float]

def smartRuleCondition : Schema := record
  [opt "max_prompt_tokens" (.ptr .int),
   opt "contains" (.slice .str),
   opt "prompt_length" (.ptr promptLengthCondition),
   opt "semantic_similarity" (.ptr semanticSimilarityCondition)]

def smartRule : Schema := record
  [req "name" .str,req "when" smartRuleCondition,req "prefer_models" (list .str)]

def smartConstraints : Schema := record
  [opt "max_cost_per_1m" (.ptr .float),opt "max_latency_ms" (.ptr .float)]

def smartAction : Schema := record
  [opt "block" .bool,
   opt "reason" .str,
   opt "prefer_models" (.slice .str),
   opt "ban_models" (.slice .str),
   opt "set_constraints" (.ptr smartConstraints),
   opt "use_anchor" .bool]

def smartStageRule : Schema := record
  [req "when" smartRuleCondition,req "action" smartAction]

def smartStage : Schema := record
  [req "name" .str,req "rules" (list smartStageRule)]

def costOptimizerConfig : Schema := record
  [req "default_completion_tokens_estimate" .int]

def smartConfig : Schema := record
  [req "weights" smartWeights,
   req "rules" (list smartRule),
   req "stages" (list smartStage),
   req "cost_optimizer" costOptimizerConfig]

def semanticRoutingConfig : Schema := record
  [req "threshold_default" .float,req "embedding_model" .str]

def modalityEmbeddingConfig : Schema := record [req "embedding_model" .str]

def semanticCacheConfig : Schema := record
  [req "enabled" .bool,
   req "threshold" .float,
   req "ttl_seconds" .int,
   req "max_entries_per_tenant" .int,
   req "scope" .str,
   req "embedding_model" .str]

def routingConfig : Schema := record
  [req "strategy" .str,
   opt "route_group" .str,
   req "smart" smartConfig,
   req "fallback" fallbackConfig,
   req "semantic" semanticRoutingConfig]

def precedenceConfig : Schema := record
  [req "model" .str,req "conflict_policy" .str]

def virtualModelConfig : Schema := record
  [req "enabled" .bool,req "route_group" .str,req "expose_alias_in_response" .bool]

def selectionConfig : Schema := record
  [req "header_model_key" .str,
   req "header_route_key" .str,
   req "route_groups" (table (list .str)),
   req "precedence" precedenceConfig,
   opt "virtual_models" (.dict virtualModelConfig),
   req "allow_model_override" .bool,
   req "allow_route_group_override" .bool]

def trafficSplitEntry : Schema := record [req "model" .str,req "weight" .int]

def regexBlockHookConfig : Schema := record [req "patterns" (list .str)]

def piiAllowRoutingConfig : Schema := record [req "enabled" .bool,req "model" .str]

def piiHookConfig : Schema := record
  [req "enabled" .bool,
   req "url" .str,
   req "timeout_ms" .int,
   req "fail_open" .bool,
   opt "allow_pii" (.ptr piiAllowRoutingConfig)]

def hooksConfig : Schema := record
  [opt "regex_block" (.ptr regexBlockHookConfig),opt "pii" (.ptr piiHookConfig)]

def budgetsConfig : Schema := record [req "monthly_usd" .float,req "timezone" .str]

def budgetEnforcementThresholds : Schema := record
  [req "warn_pct" .float,req "hard_pct" .float]

def tagBudgetsConfig : Schema := record
  [req "enabled" .bool,
   req "keys" (list .str),
   req "monthly_usd_by_tag" (table (table .float))]

def budgetEventsRedisConfig : Schema := record
  [req "addr" .str,req "password" .str,req "db" .int]

def budgetEventsConfig : Schema := record [req "redis" budgetEventsRedisConfig]

def budgetEnforcementConfig : Schema := record
  [req "enabled" .bool,
   req "mode" .str,
   req "block_status" .int,
   req "degrade_route_group" .str,
   req "include_cost_in_error" .bool,
   req "thresholds" budgetEnforcementThresholds,
   req "tag_budgets" tagBudgetsConfig,
   req "events" budgetEventsConfig]

def rateLimitConfig : Schema := record
  [req "rpm" .int,req "burst" .int,req "scope" .str]

def complianceConfig : Schema := record
  [req "retention_days" .int,req "log_mode" .str]

def tenantLoggingConfig : Schema := record
  [req "mode" .str,req "retention_days" .int]

def webhookAuthConfig : Schema := record
  [req "type" .str,req "token_env" .str,req "header" .str]

def alertsConfig : Schema := record
  [req "enabled" .bool,
   req "budget_thresholds" (list .float),
   req "webhook_url" .str,
   req "webhook_timeout_ms" .int,
   req "webhook_auth" webhookAuthConfig]

def tenantWorkflowModelsHierarchy : Schema := record
  [req "premium" .str,req "normal" .str,req "low" .str]

def workflowThresholdAction : Schema := record
  [req "to_do" .str,req "percentage_to_shoot" .float]

def workflowThresholdPolicy : Schema := record
  [req "action_1" workflowThresholdAction,req "action_2" workflowThresholdAction]

def externalClassifierConfig : Schema := record
  [req "host" .str,req "port" .int,opt "api_key" .str]

def tenantWorkflowAssignment : Schema := record
  [req "workflow_id" .str,
   req "models_hierarchy" tenantWorkflowModelsHierarchy,
   opt "steps_policy" (.ptr workflowThresholdPolicy),
   opt "cost_policy" (.ptr workflowThresholdPolicy),
   req "enable_external_classifier" .bool,
   opt "external_classifier" (.ptr externalClassifierConfig)]

def tenantDecisionOpsConfig : Schema := record
  [req "enabled" .bool,req "enabled_workflows" (list tenantWorkflowAssignment)]

def claudeCodeTenantConfig : Schema := record
  [req "enabled" .bool,opt "monthly_budget" .float,opt "timezone" .str]

def tenantSettings : List (Tag × Schema) :=
  [req "allowed_models" (list .str),
   req "routing" routingConfig,
   req "selection" selectionConfig,
   req "semantic_cache" semanticCacheConfig,
   opt "semantic_modalities" (.dict modalityEmbeddingConfig),
   req "hooks" hooksConfig,
   req "budgets" budgetsConfig,
   req "budget_enforcement" budgetEnforcementConfig,
   req "rate_limit" rateLimitConfig,
   req "compliance" complianceConfig,
   req "logging" tenantLoggingConfig,
   req "alerts" alertsConfig,
   opt "tool_routing_enabled" (.ptr .bool),
   opt "traffic_split" (.dict (list trafficSplitEntry)),
   opt "max_output_tokens" (.ptr .int),
   opt "claude_code" (.ptr claudeCodeTenantConfig),
   opt "decision_ops" (.ptr tenantDecisionOpsConfig)]

def tenantFields : Fields := fields
  (req "id" .str :: opt "environment" .str :: opt "api_keys" (.slice .str) :: tenantSettings)

def tenantConfig : Schema := .struct [] tenantFields

end PrismGateway.Config.Schemas
